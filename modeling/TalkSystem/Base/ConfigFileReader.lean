import Mathlib.Algebra.Group.Int.Defs
import Mathlib.Algebra.GroupWithZero.Nat
import Mathlib.Data.List.DropRight
import TalkSystem.Base.CString
import TalkSystem.Machine.Runs

/-!
# `CConfigFileReader`

The configuration file with its map. Lines are read into a buffer of 256 bytes
and written from one of 128. A C string is the list of its bytes before the
NUL, so cutting one in place is taking a prefix of it.
-/

set_option autoImplicit false

namespace TalkSystem.Base

def newline : UInt8 := 10
def equalsSign : UInt8 := 61
def hashSign : UInt8 := 35

def isBlank (byte : UInt8) : Bool := byte == 32 || byte == 9

/-! ## stdio -/

/-- What can be opened for reading, with its contents. -/
abbrev Files := Bytes → Option Bytes

/-- The bytes that `fgets` stores when there is room for `count`, and the input
behind them. -/
def fgetsBytes : Nat → Bytes → Bytes × Bytes
  | 0, input => ([], input)
  | _ + 1, [] => ([], [])
  | count + 1, byte :: input =>
      if byte = newline then
        ([byte], input)
      else
        (byte :: (fgetsBytes count input).1, (fgetsBytes count input).2)

/-- `fgets(buf, size, fp)`; `none` is NULL. -/
def fgets (size : Nat) (input : Bytes) : Option (Bytes × Bytes) :=
  if input = [] then none else some (fgetsBytes (size - 1) input)

/-- What a buffer of `size` bytes holds after `snprintf` of a text without NUL. -/
def snprintf (size : Nat) (text : Bytes) : Bytes := text.take (size - 1)

/-- The answers to `fopen` for writing and to each `fwrite`: `none` if the item
is written, otherwise how many of its bytes were. -/
structure WriteFileAnswers where
  opens : Bool
  fwrite : Nat → Option Nat

/-! ## The reader -/

structure CConfigFileReader where
  loadOk : Bool
  configMap : StringMap
  configFile : Bytes

namespace CConfigFileReader

/-- A conversion to `int`. -/
def castInt (value : Int) : Int := value.bmod (2 ^ 32)

/-- `_TrimSpace`; `none` is NULL. -/
def trimSpace (name : Bytes) : Option Bytes :=
  let start := name.dropWhile isBlank
  if start = [] then
    none
  else
    let text := start.rdropWhile isBlank
    let len := castInt (text.length - 1) + 1
    if len ≤ 0 then none else some text

def parseLine (configMap : StringMap) (line : Bytes) : StringMap :=
  match line.dropWhile (· ≠ equalsSign) with
  | [] => configMap
  | _ :: after =>
      match trimSpace (line.takeWhile (· ≠ equalsSign)), trimSpace after with
      | some key, some value => configMap.insertIfNew key value
      | _, _ => configMap

/-- The body of the loop in `_LoadFile`. A buffer that starts with a NUL counts
as an empty line. -/
def loadLine (configMap : StringMap) (buf : Bytes) : StringMap :=
  let line := cStr buf
  let line := if line.getLast? = some newline then line.dropLast else line
  let line := line.takeWhile (· ≠ hashSign)
  if line = [] then configMap else parseLine configMap line

/-- What the calls of `fgets` return one after the other, at most `fuel` of them. -/
def readLines : Nat → Bytes → List Bytes
  | 0, _ => []
  | fuel + 1, input =>
      match fgets 256 input with
      | none => []
      | some (buf, rest) => buf :: readLines fuel rest

/-- Each `fgets` takes a byte, so the length of the input is fuel enough. -/
def loadContents (configMap : StringMap) (contents : Bytes) : StringMap :=
  (readLines contents.length contents).foldl loadLine configMap

def loadFile (reader : CConfigFileReader) (files : Files) (filename : Bytes) :
    CConfigFileReader :=
  let reader := { reader with configFile := filename }
  match files filename with
  | none => reader
  | some contents =>
      { reader with configMap := loadContents reader.configMap contents, loadOk := true }

/-- The constructor does not initialise `m_load_ok`. -/
def new (uninitialised : Bool) (files : Files) (filename : Bytes) : CConfigFileReader :=
  loadFile ⟨uninitialised, ∅, []⟩ files filename

def getConfigName (reader : CConfigFileReader) (name : Bytes) : Option Bytes :=
  if reader.loadOk then reader.configMap[name]?.map cStr else none

/-- `szPaire` for one entry. -/
def szPaire (entry : Bytes × Bytes) : Bytes :=
  snprintf 128 (cStr entry.1 ++ [equalsSign] ++ cStr entry.2 ++ [newline])

/-- The loop of `_WriteFIle` from the entry with number `index` on: whether it
ran to its end, and what is in the file then. -/
def writeEntries (answers : WriteFileAnswers) :
    Nat → List (Bytes × Bytes) → Bytes → Bool × Bytes
  | _, [], written => (true, written)
  | index, entry :: entries, written =>
      match answers.fwrite index with
      | none => writeEntries answers (index + 1) entries (written ++ szPaire entry)
      | some count => (false, written ++ (szPaire entry).take count)

def writeFile (reader : CConfigFileReader) (files : Files) (answers : WriteFileAnswers)
    (filename : Option Bytes) : Int × Files :=
  let name := filename.getD reader.configFile
  if answers.opens then
    let (done, written) := writeEntries answers 0 reader.configMap.toList []
    (if done then 0 else -1, Function.update files name (some written))
  else
    (-1, files)

/-- The map after its update in `SetConfigValue`. -/
def setValue (configMap : StringMap) (name value : Bytes) : StringMap :=
  if configMap.contains name then configMap.insert name value
  else configMap.insertIfNew name value

def setConfigValue (reader : CConfigFileReader) (files : Files) (answers : WriteFileAnswers)
    (name value : Bytes) : Int × CConfigFileReader × Files :=
  if reader.loadOk then
    let reader := { reader with configMap := setValue reader.configMap name value }
    let (result, files) := reader.writeFile files answers none
    (result, reader, files)
  else
    (-1, reader, files)

end CConfigFileReader

/-! ## A reader and its file -/

structure ConfigState where
  reader : CConfigFileReader
  files : Files

structure ConfigCall where
  name : Bytes
  value : Bytes
  answers : WriteFileAnswers

/-- Successful calls of `SetConfigValue` one after the other. -/
def configMachine : Machine ConfigState ConfigCall where
  step state call :=
    let (result, reader, files) :=
      state.reader.setConfigValue state.files call.answers call.name call.value
    if result = 0 then some ⟨reader, files⟩ else none

end TalkSystem.Base
