import Mathlib.Data.List.DropRight
import Mathlib.Data.List.TakeWhile
import Switchboard.Config.EnvText
import Switchboard.Logging.Level

/-!
# What a variable spells

The text of a variable is read as a typed value, so not every text is read as a text, and a text that is
read as one need not be read as itself.  Two facts about `EnvText.read` are what settings need.

* Decimal digits, with or without a sign, are read as the number they stand for, as long as it has 64
  bits (`EnvText.number?_read`).
* A text that is read as a text names the same level as what it is read as, unless it is quoted; then
  the quotes are taken off, and with them the text names none (`EnvText.names_of_asText`).
-/

namespace Switchboard

/-! ## Trimming -/

namespace Text

theorem trimEnd_cons {c : Char} (h : isBlank c = false) (rest : List Char) :
    trimEnd (c :: rest) = c :: trimEnd rest := by
  rw [trimEnd, trimEnd, List.reverse_cons, List.dropWhile_append]
  split
  · rename_i hnil
    rw [List.isEmpty_iff.1 hnil]
    simp [h]
  · simp

theorem trim_cons {c : Char} (h : isBlank c = false) (rest : List Char) :
    trim (c :: rest) = c :: trimEnd rest := by
  rw [trim, trimStart_cons h, trimEnd_cons h]

/-- Trimming twice is no more than trimming once. -/
theorem trim_trim (s : List Char) : trim (trim s) = trim s := by
  cases hs : trimStart s with
  | nil => simp [trim, hs, trimEnd]
  | cons c rest =>
    have hc : isBlank c = false := by
      rw [trimStart] at hs
      have hne : s.dropWhile isBlank ≠ [] := by
        rw [hs]
        exact List.cons_ne_nil c rest
      have hhead : (s.dropWhile isBlank).head hne = c := by simp [hs]
      rw [← hhead]
      exact List.head_dropWhile_not isBlank hne
    have htwice : trimEnd (trimEnd rest) = trimEnd rest := List.rdropWhile_idempotent isBlank rest
    have hs' : trim s = c :: trimEnd rest := by
      rw [trim, hs, trimEnd_cons hc]
    rw [hs', trim_cons hc, htwice]

/-- Nothing is trimmed from a text without blanks. -/
theorem trim_eq_self {s : List Char} (h : ∀ c ∈ s, isBlank c = false) : trim s = s := by
  have hnone : ∀ t : List Char, (∀ c ∈ t, isBlank c = false) → t.dropWhile isBlank = t := by
    intro t ht
    cases t with
    | nil => rfl
    | cons c rest => exact trimStart_cons (ht c List.mem_cons_self) rest
  rw [trim, trimEnd, trimStart, hnone s h, hnone s.reverse fun c hc => h c (List.mem_reverse.1 hc),
    List.reverse_reverse]

/-- The blanks between tokens are blanks. -/
theorem trim_skip (s : List Char) : trim (EnvText.skip s) = trim s := by
  induction s with
  | nil => rfl
  | cons c rest ih =>
    rw [EnvText.skip, List.dropWhile_cons]
    split
    · rename_i hc
      have hdrop : trimStart (c :: rest) = trimStart rest :=
        List.dropWhile_cons_of_pos (isBlank_of_isAsciiBlank hc)
      show trim (EnvText.skip rest) = trimEnd (trimStart (c :: rest))
      rw [ih, hdrop]
      rfl
    · rfl

end Text

namespace Level

/-- The names of a level. -/
def aliases : Level → List String
  | warning => ["WARNING", "WARN"]
  | l => [l.name]

/-- A text names a level if it is one of its names, apart from blanks at its ends and from the case of
its letters. -/
def Names (s : String) (l : Level) : Prop := canonical s ∈ l.aliases

instance (s : String) (l : Level) : Decidable (Names s l) :=
  inferInstanceAs (Decidable (canonical s ∈ l.aliases))

theorem parse_eq_ok_iff {s : String} {l : Level} : parse s = .ok l ↔ Names s l := by
  rw [parse, Names]
  by_cases hwarn : canonical s = "WARN"
  · rw [if_pos hwarn, hwarn]
    cases l <;> decide
  · have hname : canonical s ∈ l.aliases ↔ canonical s = l.name := by
      cases l <;> simp [aliases, name, hwarn]
    have hof : ofName? (canonical s) = some l ↔ canonical s = l.name := by
      refine ⟨fun h => ?_, fun h => h ▸ ofName?_name l⟩
      have hfound : l.name = canonical s := by simpa using List.find?_some h
      exact hfound.symm
    rw [if_neg hwarn, hname, ← hof]
    cases ofName? (canonical s) <;> simp

/-- Two texts that differ at their ends only, in blanks, name the same level. -/
theorem names_trimmed {s : String} {l : Level} : Names (Text.trimmed s) l ↔ Names s l := by
  rw [Names, Names, canonical, Text.trimmed, Text.trimmed, String.toList_ofList, Text.trim_trim]
  rfl

/-- Names of levels do not begin with a quote. -/
theorem not_names_of_quote {s : String} {c : Char} {rest : List Char} (hc : c = '"' ∨ c = '\x27')
    (hs : EnvText.skip s.toList = c :: rest) (l : Level) : ¬Names s l := by
  intro h
  have hblank : Text.isBlank c = false := by
    rcases hc with rfl | rfl <;> decide
  have hupper : c.toUpper = c := by
    rcases hc with rfl | rfl <;> decide
  have hhead : (canonical s).toList.head? = some c := by
    rw [canonical, Text.upper, Text.trimmed, String.toList_ofList, String.toList_ofList,
      ← Text.trim_skip, hs, Text.trim_cons hblank, List.map_cons, List.head?_cons, hupper]
  have hnames : ∀ t ∈ l.aliases, t.toList.head? ≠ some '"' ∧ t.toList.head? ≠ some '\x27' := by
    cases l <;> decide
  obtain ⟨hdouble, hsingle⟩ := hnames _ h
  rcases hc with rfl | rfl
  · exact hdouble hhead
  · exact hsingle hhead

/-- A single character is no name of a level. -/
theorem not_names_single (c : Char) (l : Level) : ¬Names (String.ofList [c]) l := by
  intro h
  have hlength : (canonical (String.ofList [c])).toList.length ≤ 1 := by
    rw [canonical, Text.upper, Text.trimmed, String.toList_ofList, String.toList_ofList,
      String.toList_ofList, List.length_map]
    cases hc : Text.isBlank c <;> simp [Text.trim, Text.trimStart, Text.trimEnd, hc]
  have hnames : ∀ t ∈ l.aliases, 1 < t.toList.length := by
    cases l <;> decide
  exact Nat.not_lt.2 hlength (hnames _ h)

end Level

namespace EnvText

/-! ## Digits -/

/-- The decimal digits of a number, with or without a sign. -/
inductive IsDecimal : List Char → Int → Prop
  | plain {ds : List Char} (hne : ds ≠ []) (h : ∀ c ∈ ds, c.isDigit = true) :
      IsDecimal ds (Decimal.ofDigits ds)
  | plus {ds : List Char} (hne : ds ≠ []) (h : ∀ c ∈ ds, c.isDigit = true) :
      IsDecimal ('+' :: ds) (Decimal.ofDigits ds)
  | minus {ds : List Char} (hne : ds ≠ []) (h : ∀ c ∈ ds, c.isDigit = true) :
      IsDecimal ('-' :: ds) (-(Decimal.ofDigits ds : Int))

/-- Among them are the digits with which a number is usually written. -/
theorem isDecimal_toString (n : Int) : IsDecimal (toString n).toList n := by
  have hvalue (k : Nat) : Decimal.ofDigits (Nat.toDigits 10 k) = k := Nat.ofDigitChars_ten_toDigits
  have hdigits (k : Nat) : ∀ c ∈ Nat.toDigits 10 k, c.isDigit = true :=
    fun c => Nat.isDigit_of_mem_toDigits (by decide) (by decide)
  cases n with
  | ofNat k =>
    have h := IsDecimal.plain (Nat.toDigits_ne_nil (b := 10)) (hdigits k)
    rw [hvalue] at h
    show IsDecimal (Nat.repr k).toList k
    rwa [Nat.repr, String.toList_ofList]
  | negSucc k =>
    have h := IsDecimal.minus (Nat.toDigits_ne_nil (b := 10)) (hdigits (k + 1))
    rw [hvalue] at h
    show IsDecimal ("-" ++ Nat.repr (k + 1)).toList (-((k + 1 : Nat) : Int))
    rw [Nat.repr, String.toList_append, String.toList_ofList, String.toList_ofList]
    exact h

variable {s : List Char} {n : Int}

theorem digits?_eq {ds : List Char} (hne : ds ≠ []) (h : ∀ c ∈ ds, c.isDigit = true) :
    digits? ds = some (Decimal.ofDigits ds) := by
  rw [digits?, if_pos ⟨hne, List.all_eq_true.2 h⟩]

/-- A sign is none of the digits. -/
theorem digits?_cons {c : Char} (h : c.isDigit = false) (rest : List Char) :
    digits? (c :: rest) = none := by
  refine if_neg fun hall => ?_
  have hc : c.isDigit = true := List.all_eq_true.1 hall.2 c List.mem_cons_self
  exact Bool.false_ne_true (h.symm.trans hc)

/-- A row of digits begins with no sign. -/
theorem signed_digits {ds : List Char} (h : ∀ c ∈ ds, c.isDigit = true) : signed ds = (false, ds) := by
  unfold signed
  split
  · exact absurd (h _ List.mem_cons_self) (by decide)
  · exact absurd (h _ List.mem_cons_self) (by decide)
  · rfl

theorem unsigned?_digits {ds : List Char} (hne : ds ≠ []) (h : ∀ c ∈ ds, c.isDigit = true) :
    unsigned? ds =
      if fitsUnsigned (Decimal.ofDigits ds) then some (Decimal.ofDigits ds) else none := by
  unfold unsigned?
  split
  · exact absurd (h _ List.mem_cons_self) (by decide)
  · simp only [digits?_eq hne h]

/-- Digits without a point are no decimal number with a fraction. -/
theorem IsDecimal.decimal? (h : IsDecimal s n) : decimal? s = none := by
  have hnone : ∀ ds : List Char, (∀ c ∈ ds, c.isDigit = true) → ds.dropWhile Char.isDigit = [] :=
    fun ds hds => List.dropWhile_eq_nil_iff.2 hds
  cases h with
  | plain hne h => rw [EnvText.decimal?, signed_digits h, hnone _ h]
  | plus hne h => rw [EnvText.decimal?, signed, hnone _ h]
  | minus hne h => rw [EnvText.decimal?, signed, hnone _ h]

theorem IsDecimal.mem (h : IsDecimal s n) {c : Char} (hc : c ∈ s) :
    c.isDigit = true ∨ c = '+' ∨ c = '-' := by
  cases h with
  | plain hne h => exact Or.inl (h c hc)
  | plus hne h =>
    rcases List.mem_cons.1 hc with rfl | hc
    · exact Or.inr (Or.inl rfl)
    · exact Or.inl (h c hc)
  | minus hne h =>
    rcases List.mem_cons.1 hc with rfl | hc
    · exact Or.inr (Or.inr rfl)
    · exact Or.inl (h c hc)

/-- The characters of a number begin no other kind of value. -/
theorem IsDecimal.opens_nothing (h : IsDecimal s n) {c : Char} (hc : c ∈ s) :
    c ∉ ['t', 'f', '"', '\x27', '[', '{'] := by
  intro hbad
  have hin := h.mem hc
  simp only [List.mem_cons, List.not_mem_nil, or_false] at hbad
  rcases hbad with rfl | rfl | rfl | rfl | rfl | rfl <;> exact absurd hin (by decide)

/-- They can all stand in a bare word. -/
theorem IsDecimal.inWord (h : IsDecimal s n) {c : Char} (hc : c ∈ s) : inWord c = true := by
  have hin := h.mem hc
  rw [EnvText.inWord, Bool.not_eq_true', Bool.eq_false_iff]
  intro hbad
  simp only [Bool.or_eq_true, beq_iff_eq] at hbad
  rcases hbad with (((rfl | rfl) | rfl) | rfl) | rfl <;> exact absurd hin (by decide)

theorem IsDecimal.trim (h : IsDecimal s n) : Text.trim s = s := by
  refine Text.trim_eq_self fun c hc => ?_
  rcases h.mem hc with hc | rfl | rfl
  · exact Text.isBlank_of_isDigit hc
  · decide
  · decide

/-- A number that is not negative is best read without a sign. -/
theorem number?_word_of_unsigned {k : Nat} (h : IsDecimal s k)
    (hread : unsigned? s = if fitsUnsigned k then some k else none)
    (hfits : fitsUnsigned k = true ∨ fitsSigned k = true) : (word s).number? = some (k : Int) := by
  have hunsigned : fitsUnsigned k = true := by
    rcases hfits with hfits | hfits
    · exact hfits
    · simp only [fitsUnsigned, fitsSigned, Bool.and_eq_true, decide_eq_true_eq] at *
      omega
  rw [word, h.trim]
  simp only [h.decimal?, hread, if_pos hunsigned]
  rfl

/-- **Decimal digits spell their number**, if it fits into 64 bits one way or the other. -/
theorem number?_word (h : IsDecimal s n) (hfits : fitsUnsigned n = true ∨ fitsSigned n = true) :
    (word s).number? = some n := by
  cases h with
  | plain hne h => exact number?_word_of_unsigned (.plain hne h) (unsigned?_digits hne h) hfits
  | plus hne h =>
    refine number?_word_of_unsigned (.plus hne h) ?_ hfits
    simp only [unsigned?, digits?_eq hne h]
  | @minus ds hne h =>
    have hunsigned : unsigned? ('-' :: ds) = none := by
      simp [unsigned?, digits?_cons (show Char.isDigit '-' = false by decide)]
    have hsigned : fitsSigned (-(Decimal.ofDigits ds : Int)) = true := by
      rcases hfits with hfits | hfits
      · simp only [fitsUnsigned, fitsSigned, Bool.and_eq_true, decide_eq_true_eq] at *
        omega
      · exact hfits
    have hdecimal : IsDecimal ('-' :: ds) (-(Decimal.ofDigits ds : Int)) := .minus hne h
    rw [word, hdecimal.trim]
    simp only [hdecimal.decimal?, hunsigned, signed?, signed, digits?_eq hne h, if_true,
      if_pos hsigned]
    rfl

/-! ## Texts -/

/-- A bare word is read up to a character that cannot stand in it. -/
theorem value?_word (fuel : Nat)
    (h : ∀ c ∈ (skip s).head?, c ∉ ['t', 'f', '"', '\x27', '[', '{']) :
    value? (fuel + 1) s =
      some (word ((skip s).takeWhile inWord), skip ((skip s).dropWhile inWord)) := by
  rw [value?]
  split
  case h_10 => rfl
  all_goals
    rename_i hs
    exact absurd (h _ (by rw [hs]; rfl)) (by simp)

/-- A number is not read as a text. -/
theorem asText_decimal? {t : Tree} (h : decimal? s = some t) (raw : String) : t.asText ≠ .ok raw := by
  simp only [decimal?] at h
  repeat' split at h
  all_goals
    first
    | obtain rfl := Option.some.inj h
      exact nofun
    | exact absurd h nofun

/-- A bare word that is read as a text is read without the blanks at its ends. -/
theorem asText_word {raw : String} (h : (word s).asText = .ok raw) :
    raw = String.ofList (Text.trim s) := by
  rw [word] at h
  split at h
  · rename_i t ht
    exact absurd h (asText_decimal? ht raw)
  · split at h
    · exact absurd h (by simp [Tree.asText])
    · split at h
      · exact absurd h (by simp [Tree.asText])
      · exact (Except.ok.inj h).symm

/-- A bare word that reaches up to blanks reaches to the end. -/
theorem takeWhile_of_skip {u : List Char} (h : skip (u.dropWhile inWord) = []) :
    u.takeWhile inWord = u := by
  have hdrop : u.dropWhile inWord = [] := by
    cases hu : u.dropWhile inWord with
    | nil => rfl
    | cons c rest =>
      have hne : u.dropWhile inWord ≠ [] := hu ▸ List.cons_ne_nil c rest
      have hhead : (u.dropWhile inWord).head hne = c := by simp [hu]
      have hc : inWord c = false := hhead ▸ List.head_dropWhile_not inWord hne
      have hblank : Text.isAsciiBlank c = false := by
        simp only [inWord, Bool.not_eq_false', Bool.or_eq_true, beq_iff_eq] at hc
        rcases hc with (((rfl | rfl) | rfl) | rfl) | rfl <;> decide
      rw [hu, skip, List.dropWhile_cons_of_neg (by simp [hblank])] at h
      exact absurd h (List.cons_ne_nil c rest)
  exact List.takeWhile_eq_self_iff.2 (List.dropWhile_eq_nil_iff.1 hdrop)

/-- A text in quotes, and what stands between them. -/
def IsQuoted (s inner : List Char) : Prop :=
  ∃ body tail, skip s = '"' :: body ∧ quoted? body = some (inner, tail) ∧ skip tail = []

/-- What is read as a text is a quoted string, a quoted character or a word. -/
theorem asText_value? {fuel : Nat} {t : Tree} {raw : String} (h : value? fuel s = some (t, []))
    (ht : t.asText = .ok raw) : IsQuoted s raw.toList ∨
      (∃ c body, skip s = '\x27' :: body ∧ raw = String.ofList [c]) ∨
      raw = String.ofList (Text.trim s) := by
  cases fuel with
  | zero => exact absurd h (by simp [value?])
  | succ fuel =>
    rw [value?] at h
    split at h
    all_goals
      obtain ⟨r, hr, heq⟩ := Option.bind_eq_some_iff.1 h
      obtain ⟨rfl, hrest⟩ := Prod.mk.inj (Option.some.inj heq)
    case h_3 body hs =>
      obtain ⟨q, hq, rfl⟩ := Option.map_eq_some_iff.1 hr
      obtain rfl := Except.ok.inj ht
      exact Or.inl ⟨body, q.2, hs, by simpa using hq, hrest⟩
    case h_4 c body hs =>
      obtain rfl := Option.some.inj hr
      exact Or.inr (Or.inl ⟨c, _, hs, (Except.ok.inj ht).symm⟩)
    case h_10 =>
      obtain rfl := Option.some.inj hr
      rw [asText_word ht, takeWhile_of_skip hrest, Text.trim_skip]
      exact Or.inr (Or.inr rfl)
    -- Truth values, lists and nodes are no texts.
    all_goals
      first
      | obtain rfl := Option.some.inj hr
        exact absurd ht nofun
      | obtain ⟨q, -, rfl⟩ := Option.map_eq_some_iff.1 hr
        exact absurd ht nofun
      | exact absurd hr nofun

/-! ## Values of variables -/

/-- Decimal digits are read as their number, if it fits into 64 bits one way or the other. -/
theorem number?_read {s : String} {n : Int} (h : IsDecimal s.toList n)
    (hfits : fitsUnsigned n = true ∨ fitsSigned n = true) : (read s).number? = some n := by
  have hmem : ∀ c ∈ skip s.toList, c ∈ s.toList :=
    fun c hc => (List.dropWhile_sublist _).mem hc
  have hhead : ∀ c ∈ (skip s.toList).head?, c ∉ ['t', 'f', '"', '\x27', '[', '{'] :=
    fun c hc => h.opens_nothing (hmem c (List.mem_of_mem_head? hc))
  have hword : ∀ c ∈ skip s.toList, inWord c = true := fun c hc => h.inWord (hmem c hc)
  have hsame : word (skip s.toList) = word s.toList := by
    rw [word, word, Text.trim_skip]
  have hvalue := value?_word (2 * s.toList.length + 1) hhead
  rw [List.takeWhile_eq_self_iff.2 hword, List.dropWhile_eq_nil_iff.2 hword, hsame] at hvalue
  rw [read]
  simp only [hvalue]
  exact number?_word h hfits

/-- **What a text is read as names the same level**, unless the text is quoted; a quoted text names
none. -/
theorem names_of_asText {s raw : String} (h : (read s).asText = .ok raw) :
    (IsQuoted s.toList raw.toList ∧ ∀ l, ¬Level.Names s l) ∨
      ∀ l, Level.Names raw l ↔ Level.Names s l := by
  rw [read] at h
  split at h
  · rename_i t ht
    rcases asText_value? ht h with hq | ⟨c, body, hs, rfl⟩ | rfl
    · have ⟨body, _, hs, _⟩ := hq
      exact Or.inl ⟨hq, Level.not_names_of_quote (Or.inl rfl) hs⟩
    · -- A single character is no name of a level, and neither is a text that begins with a quote.
      exact Or.inr fun l =>
        iff_of_false (Level.not_names_single c l) (Level.not_names_of_quote (Or.inr rfl) hs l)
    · exact Or.inr fun l => Level.names_trimmed
  · obtain rfl := Except.ok.inj h
    exact Or.inr fun l => Iff.rfl

end EnvText
end Switchboard
