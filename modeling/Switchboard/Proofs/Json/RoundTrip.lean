import Mathlib.Data.List.Basic
import Switchboard.Json.Printer
import Switchboard.Json.Reader

/-!
# Texts are read back from structured data

A string between its quotes is read as the text it was written from (`readString?_flatMap`): every
character is written in one of three ways, as itself, with a letter after a backslash or with four
hexadecimal digits, and there is one lemma for each.

From there it is a short way to objects whose members are all texts.  Members may have been written in
any order, since the reader puts them into theirs: `parse?_compact_texts`.
-/

namespace Switchboard

namespace Json

/-! ## Strings -/

theorem hexValue?_hexDigit {n : Nat} (h : n < 16) : hexValue? (hexDigit n) = some n := by
  have hall : ∀ n < 16, hexValue? (hexDigit n) = some n := by decide
  exact hall n h

/-- A letter after a backslash. -/
theorem readString?_letter {e c : Char} (hu : e ≠ 'u') (he : letterEscape? e = some c)
    (rest : List Char) :
    readString? ('\\' :: e :: rest) = (readString? rest).map fun r => (c :: r.1, r.2) := by
  rw [readString?]
  · rw [he]
    cases readString? rest <;> rfl
  · intro a b c d rest heq
    exact absurd heq hu

/-- The four digits after a backslash and a `u` for a character below the space. -/
theorem readString?_hex {c : Char} (h : c.toNat < 32) (rest : List Char) :
    readString? ('\\' :: 'u' :: '0' :: '0' :: hexDigit (c.toNat / 16) :: hexDigit (c.toNat % 16) ::
      rest) = (readString? rest).map fun r => (c :: r.1, r.2) := by
  have hhex : hex4? '0' '0' (hexDigit (c.toNat / 16)) (hexDigit (c.toNat % 16)) = some c.toNat := by
    have hzero : hexValue? '0' = some 0 := rfl
    rw [hex4?, hzero, hexValue?_hexDigit (by omega), hexValue?_hexDigit (by omega)]
    show some (((0 * 16 + 0) * 16 + c.toNat / 16) * 16 + c.toNat % 16) = some c.toNat
    exact congrArg some (by omega)
  have hscalar : scalar? c.toNat = some c := by
    have hvalid : c.toNat.isValidChar := c.valid
    rw [scalar?, if_pos hvalid, Char.ofNat_toNat]
  rw [readString?]
  simp only [hhex]
  rw [if_neg (by omega), hscalar]
  cases readString? rest <;> rfl

/-- A character that stands for itself. -/
theorem readString?_plain {c : Char} (hquote : c ≠ '"') (hslash : c ≠ '\\') (h : ¬c.toNat < 32)
    (rest : List Char) :
    readString? (c :: rest) = (readString? rest).map fun r => (c :: r.1, r.2) := by
  rw [readString?.eq_def]
  split
  · rename_i heq
    exact absurd heq (List.cons_ne_nil _ _)
  · rename_i heq
    exact absurd (List.cons.inj heq).1 hquote
  · rename_i heq
    exact absurd (List.cons.inj heq).1 hslash
  · rename_i heq
    exact absurd (List.cons.inj heq).1 hslash
  · rename_i heq
    obtain ⟨rfl, rfl⟩ := List.cons.inj heq
    rw [if_neg (by rintro (hlt | heq) <;> contradiction)]
    cases readString? rest <;> rfl

/-- A character that has been escaped is read as itself. -/
theorem readString?_escapeChar (c : Char) (rest : List Char) :
    readString? (escapeChar c ++ rest) = (readString? rest).map fun r => (c :: r.1, r.2) := by
  rw [escapeChar]
  split_ifs with hquote hslash hline hreturn htab hback hfeed hcontrol
  · exact readString?_letter (by decide) (by rw [hquote]; rfl) rest
  · exact readString?_letter (by decide) (by rw [hslash]; rfl) rest
  · exact readString?_letter (by decide) (by rw [hline]; rfl) rest
  · exact readString?_letter (by decide) (by rw [hreturn]; rfl) rest
  · exact readString?_letter (by decide) (by rw [htab]; rfl) rest
  · exact readString?_letter (by decide) (by rw [hback]; rfl) rest
  · exact readString?_letter (by decide) (by rw [hfeed]; rfl) rest
  · exact readString?_hex hcontrol rest
  · exact readString?_plain hquote hslash hcontrol rest

/-- **A text is read back from between its quotes.** -/
theorem readString?_flatMap (cs rest : List Char) :
    readString? (cs.flatMap escapeChar ++ '"' :: rest) = some (cs, rest) := by
  induction cs with
  | nil => simp [readString?]
  | cons c cs ih =>
    rw [List.flatMap_cons, List.append_assoc, readString?_escapeChar, ih]
    rfl

/-- No blank is skipped where there is none. -/
theorem skipSpace_cons {c : Char} (h : isSpace c = false) (rest : List Char) :
    skipSpace (c :: rest) = c :: rest :=
  List.dropWhile_cons_of_neg (by rw [h]; exact Bool.false_ne_true)

/-- A text between its quotes is read as a value. -/
theorem readValue?_stringText (fuel : Nat) (s : String) (rest : List Char) :
    readValue? (fuel + 1) (stringText s ++ rest) = some (.str s, rest) := by
  rw [stringText, List.cons_append, List.cons_append, List.append_assoc, readValue?,
    skipSpace_cons (by decide)]
  show (readString? (s.toList.flatMap escapeChar ++ '"' :: rest)).map _ = _
  rw [readString?_flatMap]
  show some (Json.str (String.ofList s.toList), rest) = _
  rw [String.ofList_toList]

/-! ## Objects of texts -/

/-- The object that holds texts under names. -/
def texts (ms : List (String × String)) : Json :=
  .obj (ms.map fun m => (m.1, .str m.2))

/-- The first name and its text are read, whether a comma or the brace stands behind them. -/
theorem readMembers?_cons (fuel : Nat) (k v : String) (rest : List Char) :
    readMembers? (fuel + 2) (stringText k ++ ':' :: (stringText v ++ ',' :: rest)) =
        (readMembers? (fuel + 1) rest).map (fun r => ((k, .str v) :: r.1, r.2)) ∧
      readMembers? (fuel + 2) (stringText k ++ ':' :: (stringText v ++ '}' :: rest)) =
        some ([(k, .str v)], rest) := by
  have hkey (s : List Char) : readString? (k.toList.flatMap escapeChar ++ '"' :: ':' :: s) =
      some (k.toList, ':' :: s) := readString?_flatMap ..
  have hquote (s : List Char) : skipSpace ('"' :: s) = '"' :: s := skipSpace_cons (by decide) s
  have hcolon (s : List Char) : skipSpace (':' :: s) = ':' :: s := skipSpace_cons (by decide) s
  have hcomma (s : List Char) : skipSpace (',' :: s) = ',' :: s := skipSpace_cons (by decide) s
  have hbrace (s : List Char) : skipSpace ('}' :: s) = '}' :: s := skipSpace_cons (by decide) s
  have hopen (s : List Char) :
      stringText k ++ s = '"' :: (k.toList.flatMap escapeChar ++ '"' :: s) := by
    rw [stringText, List.cons_append, List.cons_append, List.append_assoc, List.singleton_append]
  constructor
  · rw [hopen, readMembers?, hquote]
    simp only [hkey, bind, Option.bind_some, hcolon, readValue?_stringText, hcomma,
      String.ofList_toList]
  · rw [hopen, readMembers?, hquote]
    simp only [hkey, bind, Option.bind_some, hcolon, readValue?_stringText, hbrace,
      String.ofList_toList]

theorem readMembers?_texts {ms : List (String × String)} (hne : ms ≠ []) {fuel : Nat}
    (hfuel : ms.length < fuel) (rest : List Char) :
    readMembers? fuel (membersChars (ms.map fun m => (m.1, .str m.2)) ++ '}' :: rest) =
      some (ms.map fun m => (m.1, .str m.2), rest) := by
  induction ms generalizing fuel with
  | nil => exact absurd rfl hne
  | cons m others ih =>
    obtain ⟨n, rfl⟩ : ∃ n, fuel = n + 2 :=
      ⟨fuel - 2, by rw [List.length_cons] at hfuel; omega⟩
    obtain ⟨k, v⟩ := m
    cases others with
    | nil =>
      rw [List.map_singleton, membersChars, chars, List.append_assoc, List.cons_append]
      exact (readMembers?_cons n k v rest).2
    | cons m' others =>
      have hless : (m' :: others).length < n + 1 := by rw [List.length_cons] at hfuel; omega
      have hrest := ih (List.cons_ne_nil _ _) hless
      rw [List.map_cons] at hrest
      rw [List.map_cons, List.map_cons, membersChars, chars, List.append_assoc, List.cons_append,
        List.append_assoc, List.cons_append, (readMembers?_cons ..).1, hrest, Option.map_some]
      · exact List.cons_ne_nil _ _

/-- There are at least as many characters as members. -/
theorem length_le_length_membersChars (ms : List (String × Json)) :
    ms.length ≤ (membersChars ms).length := by
  induction ms with
  | nil => exact Nat.zero_le _
  | cons m rest ih =>
    cases rest with
    | nil => simp [membersChars, stringText]
    | cons m' rest =>
      rw [List.length_cons] at ih
      simp only [membersChars, List.length_cons, List.length_append]
      omega

/-- Members begin with the quote of the first name. -/
theorem membersChars_cons (m : String × Json) (rest : List (String × Json)) :
    ∃ tail, membersChars (m :: rest) = '"' :: tail := by
  cases rest <;> exact ⟨_, rfl⟩

/-- After a brace and a quote there are members. -/
theorem readValue?_brace (fuel : Nat) (tail : List Char) :
    readValue? (fuel + 1) ('{' :: '"' :: tail) =
      (readMembers? fuel ('"' :: tail)).map fun r => (object r.1, r.2) := by
  rw [readValue?, skipSpace_cons (by decide)]
  simp only [skipSpace_cons (show isSpace '"' = false by decide)]
  rfl

/-- **An object of texts is read back from its compact text**, in whatever order its members have been
written. -/
theorem parse?_compact_texts {ms ns : List (String × String)} (hperm : ms.Perm ns)
    (hns : Members.Ascending ns) : parse? (texts ms).compact = some (texts ns) := by
  cases ms with
  | nil =>
    rw [hperm.nil_eq.symm]
    rfl
  | cons m rest =>
    obtain ⟨members, hmembers⟩ :
        ∃ members, members = (m :: rest).map fun m => (m.1, Json.str m.2) := ⟨_, rfl⟩
    obtain ⟨tail, htail⟩ : ∃ tail, membersChars members = '"' :: tail :=
      hmembers ▸ membersChars_cons ..
    have hchars : chars (texts (m :: rest)) = '{' :: '"' :: (tail ++ ['}']) := by
      rw [← List.cons_append, ← htail, hmembers]
      rfl
    have hsorted : Members.Ascending (ns.map fun m => (m.1, Json.str m.2)) :=
      List.pairwise_map.2 hns
    have hsame : members.Perm (ns.map fun m => (m.1, Json.str m.2)) := by
      rw [hmembers]
      exact hperm.map _
    have hobject : object members = texts ns := by
      rw [object, Members.ofList_eq_of_perm hsame hsorted, texts]
    have hfuel : (m :: rest).length < 2 * (chars (texts (m :: rest))).length + 1 := by
      have hlength := length_le_length_membersChars members
      rw [htail, hmembers, List.length_map, List.length_cons] at hlength
      rw [hchars]
      simp only [List.length_cons, List.length_append] at hlength ⊢
      omega
    have hread := readMembers?_texts (List.cons_ne_nil m rest) hfuel []
    rw [← hmembers, htail, List.cons_append] at hread
    have hvalue : readValue? (2 * (chars (texts (m :: rest))).length + 2) (chars (texts (m :: rest))) =
        some (texts ns, []) := by
      rw [hchars] at hread ⊢
      rw [readValue?_brace, hread, Option.map_some, hobject]
    rw [parse?, compact, String.toList_ofList, hvalue]
    rfl

end Json
end Switchboard
