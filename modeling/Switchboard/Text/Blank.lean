/-!
# Blank characters

Two notions of blank space are in use.  Texts that name something --- a log level, the value of an
environment variable --- are trimmed of every character that Unicode calls white space, so that a
name pasted with a no-break space still counts.  The value grammar of the environment, on the other
hand, skips only the five blanks of ASCII between its tokens.

Case folding, where a name is read without regard to case, concerns the letters of ASCII only.
-/

namespace Switchboard
namespace Text

/-- The characters with the Unicode property `White_Space`. -/
def isBlank (c : Char) : Bool :=
  (9 ≤ c.val && c.val ≤ 13) || c.val == 0x20 || c.val == 0x85 || c.val == 0xa0 ||
  c.val == 0x1680 || (0x2000 ≤ c.val && c.val ≤ 0x200a) || c.val == 0x2028 || c.val == 0x2029 ||
  c.val == 0x202f || c.val == 0x205f || c.val == 0x3000

/-- The blanks of ASCII: space, tab, line feed, form feed and carriage return. -/
def isAsciiBlank (c : Char) : Bool :=
  c == ' ' || c == '\t' || c == '\n' || c == '\x0c' || c == '\r'

/-- Drop the blanks in front. -/
def trimStart (s : List Char) : List Char :=
  s.dropWhile isBlank

/-- Drop the blanks at the end. -/
def trimEnd (s : List Char) : List Char :=
  (s.reverse.dropWhile isBlank).reverse

/-- Drop the blanks at both ends; what stands between them stays as it is. -/
def trim (s : List Char) : List Char :=
  trimEnd (trimStart s)

/-- A text without the blanks at its ends. -/
def trimmed (s : String) : String :=
  String.ofList (trim s.toList)

/-- The ASCII letters of a text in upper case; all other characters stay. -/
def upper (s : String) : String :=
  String.ofList (s.toList.map Char.toUpper)

/-- The ASCII letters of a text in lower case; all other characters stay. -/
def lower (s : String) : String :=
  String.ofList (s.toList.map Char.toLower)

/-- Two texts that differ at most in the case of their ASCII letters. -/
def sameLetters (s t : String) : Bool :=
  lower s == lower t

@[simp] theorem trimStart_nil : trimStart [] = [] := rfl

/-- Every ASCII blank is a blank. -/
theorem isBlank_of_isAsciiBlank {c : Char} (h : isAsciiBlank c = true) : isBlank c = true := by
  simp only [isAsciiBlank, Bool.or_eq_true, beq_iff_eq] at h
  rcases h with (((h | h) | h) | h) | h <;> subst h <;> decide

theorem isBlank_of_isDigit {c : Char} (h : c.isDigit = true) : isBlank c = false := by
  rw [Char.isDigit_iff_toNat] at h
  have hlow : 48 ≤ c.toNat := h.1
  have hhigh : c.toNat ≤ 57 := h.2
  simp [isBlank, UInt32.le_iff_toNat_le, ← UInt32.toNat_inj]
  omega

/-- Nothing is trimmed in front of a character that is no blank. -/
theorem trimStart_cons {c : Char} (h : isBlank c = false) (rest : List Char) :
    trimStart (c :: rest) = c :: rest :=
  List.dropWhile_cons_of_neg (by rw [h]; exact Bool.false_ne_true)

end Text
end Switchboard
