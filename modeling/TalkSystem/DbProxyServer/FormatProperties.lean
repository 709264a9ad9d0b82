import TalkSystem.DbProxyServer.Redis
import TalkSystem.Machine.Splitting

/-!
# Formats without arguments

A format that is given no arguments is split at its spaces, and a conversion in
it has nothing to insert.
-/

set_option autoImplicit false

namespace TalkSystem.DbProxyServer

def plainToken (byte : UInt8) : FormatToken := if byte = 32 then .space else .byte byte

theorem formatTokens_cons {byte : UInt8} (no_nul : byte ≠ 0) (no_percent : byte ≠ 37)
    (format : Bytes) :
    formatTokens (byte :: format) = (formatTokens format).map (plainToken byte :: ·) := by
  by_cases space : byte = 32
  · subst space
    rfl
  · rw [plainToken, if_neg space]
    simp [formatTokens, no_nul, no_percent]

theorem formatTokens_plain {format : Bytes} (no_nul : 0 ∉ format) (no_percent : 37 ∉ format) :
    formatTokens format = some (format.map plainToken) := by
  induction format with
  | nil => rfl
  | cons byte format ih =>
      obtain ⟨visible, no_nul⟩ := List.ne_and_not_mem_of_not_mem_cons no_nul
      obtain ⟨plain, no_percent⟩ := List.ne_and_not_mem_of_not_mem_cons no_percent
      rw [formatTokens_cons visible.symm plain.symm, ih no_nul no_percent]
      rfl

/-- What has been begun grows by a part without spaces. -/
theorem fillTokens_part {part : Bytes} (free : 32 ∉ part) (tokens : List FormatToken)
    (current : Option Bytes) :
    fillTokens (part.map plainToken ++ tokens) [] current =
      fillTokens tokens [] (if part = [] then current else some (current.getD [] ++ part)) := by
  induction part generalizing current with
  | nil => simp
  | cons byte part ih =>
      obtain ⟨different, free⟩ := List.ne_and_not_mem_of_not_mem_cons free
      have token : plainToken byte = .byte byte := if_neg different.symm
      rw [List.map_cons, List.cons_append, token, fillTokens, ih free]
      by_cases last : part = [] <;> simp [last]

/-- The arguments of a format are its words. -/
theorem fillTokens_words (format : Bytes) :
    fillTokens (format.map plainToken) [] none =
      some ((format.splitOn 32).filter (· ≠ [])) := by
  induction format using Splitting.induction (32 : UInt8) with
  | last part free =>
      have ends := fillTokens_part free [] none
      rw [List.append_nil] at ends
      rw [ends, List.splitOn_eq_singleton free]
      by_cases empty : part = [] <;> simp [fillTokens, empty]
  | step part rest free ih =>
      have space : plainToken 32 = .space := rfl
      rw [List.map_append, List.map_cons, space, fillTokens_part free, fillTokens, ih,
        List.splitOn_append_cons_self_of_not_mem free]
      by_cases empty : part = [] <;> simp [empty]

theorem formatArguments_words {format : Bytes} (no_nul : 0 ∉ format) (no_percent : 37 ∉ format) :
    formatArguments format [] = some ((format.splitOn 32).filter (· ≠ [])) := by
  rw [formatArguments, formatTokens_plain no_nul no_percent, Option.bind_some, fillTokens_words]

/-- Whether a token takes an argument. -/
def FormatToken.converts : FormatToken → Bool
  | .byte _ | .space => false
  | .str | .int | .long => true

theorem fillTokens_converts {tokens : List FormatToken} {token : FormatToken}
    (member : token ∈ tokens) (converts : token.converts = true) (current : Option Bytes) :
    fillTokens tokens [] current = none := by
  induction tokens generalizing current with
  | nil => simp at member
  | cons first tokens ih =>
      cases first with
      | str | int | long => rfl
      | byte byte =>
          rcases List.mem_cons.mp member with rfl | later
          · cases converts
          · rw [fillTokens, ih later]
      | space =>
          rcases List.mem_cons.mp member with rfl | later
          · cases converts
          · rw [fillTokens, ih later]
            rfl

theorem formatTokens_nul (format : Bytes) : formatTokens (0 :: format) = none := by
  simp [formatTokens]

/-- A `%` is the first byte of a conversion or of none that is known. -/
theorem formatTokens_percent {format : Bytes} {tokens : List FormatToken}
    (tokenised : formatTokens (37 :: format) = some tokens) :
    ∃ first others, tokens = first :: others ∧ first.converts = true := by
  have begins {first : FormatToken} {rest : Option (List FormatToken)}
      (converts : first.converts = true) (found : rest.map (first :: ·) = some tokens) :
      ∃ first others, tokens = first :: others ∧ first.converts = true := by
    obtain ⟨others, -, rfl⟩ := Option.map_eq_some_iff.mp found
    exact ⟨first, others, rfl, converts⟩
  unfold formatTokens at tokenised
  split at tokenised
  case h_1 shape => cases shape
  case h_2 shape => simp at shape
  case h_3 => exact begins rfl tokenised
  case h_4 => exact begins rfl tokenised
  case h_5 => exact begins rfl tokenised
  case h_6 shape =>
      have percent := (List.cons.inj shape).1.symm
      simp [percent] at tokenised

theorem converts_of_percent {format : Bytes} (percent : 37 ∈ format) {tokens : List FormatToken}
    (tokenised : formatTokens format = some tokens) :
    ∃ token ∈ tokens, token.converts = true := by
  induction format generalizing tokens with
  | nil => simp at percent
  | cons byte format ih =>
      by_cases here : byte = 37
      · subst here
        obtain ⟨first, others, rfl, converts⟩ := formatTokens_percent tokenised
        exact ⟨first, List.mem_cons_self, converts⟩
      · have later : 37 ∈ format := (List.mem_cons.mp percent).resolve_left (Ne.symm here)
        by_cases nul : byte = 0
        · subst nul
          rw [formatTokens_nul] at tokenised
          cases tokenised
        · rw [formatTokens_cons nul here] at tokenised
          obtain ⟨others, found, rfl⟩ := Option.map_eq_some_iff.mp tokenised
          obtain ⟨token, member, converts⟩ := ih later found
          exact ⟨token, List.mem_cons_of_mem _ member, converts⟩

theorem formatArguments_percent {format : Bytes} (percent : 37 ∈ format) :
    formatArguments format [] = none := by
  cases tokenised : formatTokens format with
  | none => rw [formatArguments, tokenised, Option.bind_none]
  | some tokens =>
      obtain ⟨token, member, converts⟩ := converts_of_percent percent tokenised
      rw [formatArguments, tokenised, Option.bind_some, fillTokens_converts member converts]

end TalkSystem.DbProxyServer
