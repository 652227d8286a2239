import Switchboard.Derive.EventAttribute

/-!
# The grammar of settings

Between the brackets of an event attribute stand settings with commas between them, and perhaps one
after the last.  `PathForm`, `PairForm` and `ListForm` are the grammar, and `PathFault`, `PairFault` and
`ListFault` say what is wrong first if the tokens do not follow it.

The reader parts the tokens at the commas and reads piece by piece.  The grammar knows no pieces: a
fault is at the first token that cannot stand where it does, wherever the commas are.  Both agree
(`readAll_eq_ok_iff`, `readAll_eq_error_iff`).  What follows the grammar is read, a fault is found, and
all tokens either follow the grammar or have a fault (`form_or_fault`).
-/

namespace Switchboard
namespace Derive

open Token (keywords)

/-- Whether tokens begin with a mark. -/
def Token.beginsWith (c : Char) : List Token → Bool
  | .mark d _ :: _ => d == c
  | _ => false

theorem Token.exists_of_beginsWith {c : Char} {ts : List Token} (h : Token.beginsWith c ts = true) :
    ∃ joined rest, ts = .mark c joined :: rest := by
  cases ts with
  | nil => exact absurd h Bool.false_ne_true
  | cons t rest =>
    cases t with
    | mark d joined =>
      obtain rfl : d = c := beq_iff_eq.1 h
      exact ⟨joined, rest, rfl⟩
    | _ => exact absurd h Bool.false_ne_true

/-! ## The grammar -/

/-- Names with points between them. -/
inductive PathForm : List Token → List String → Prop
  | last {n : String} (hn : n ∉ keywords) : PathForm [.name n] [n]
  | point {n : String} {joined : Bool} {ts : List Token} {ns : List String} (hn : n ∉ keywords)
      (h : PathForm ts ns) : PathForm (.name n :: .mark '.' joined :: ts) (n :: ns)

/-- One setting. -/
inductive PairForm : List Token → EventPair → Prop
  | name (joined : Bool) (text : TextLiteral) :
      PairForm [.name "name", .mark '=' joined, .literal ⟨text.written, .text text.value⟩] (.name text)
  | occurredAt (joined : Bool) {ts : List Token} {path : FieldPath} (h : PathForm ts path.names) :
      PairForm (.name "occurred_at" :: .mark '=' joined :: ts) (.occurredAt path)

/-- Settings with commas between them, and perhaps one after the last. -/
inductive ListForm : List Token → List EventPair → Prop
  | nil : ListForm [] []
  | last {ts : List Token} {p : EventPair} (h : PairForm ts p) : ListForm ts [p]
  | comma {ts rest : List Token} {p : EventPair} {ps : List EventPair} {joined : Bool}
      (h : PairForm ts p) (hr : ListForm rest ps) :
      ListForm (ts ++ .mark ',' joined :: rest) (p :: ps)

/-! ## Faults -/

/-- There is no name where there should be one. -/
inductive NoName : List Token → Fault → Prop
  | atEnd : NoName [] (.expected .identifier true)
  | keyword {n : String} (hn : n ∈ keywords) (rest : List Token) :
      NoName (.name n :: rest) (.keyword n)
  | other {t : Token} (ht : ∀ n, t ≠ .name n) (rest : List Token) :
      NoName (t :: rest) (.expected .identifier false)

/-- What is wrong first with tokens that should begin with a path. -/
inductive PathFault : List Token → Fault → Prop
  | here {ts : List Token} {f : Fault} (h : NoName ts f) : PathFault ts f
  | point {n : String} {joined : Bool} {ts : List Token} {f : Fault} (hn : n ∉ keywords)
      (h : PathFault ts f) : PathFault (.name n :: .mark '.' joined :: ts) f

/-- What is wrong first with tokens that should begin with a setting. -/
inductive PairFault : List Token → Fault → Prop
  | key {ts : List Token} {f : Fault} (h : NoName ts f) : PairFault ts f
  | equals {n : String} {ts : List Token} (hn : n ∉ keywords) (h : Token.beginsWith '=' ts = false) :
      PairFault (.name n :: ts) (.expectedMark "=")
  | unknown {n : String} (joined : Bool) (ts : List Token) (hn : n ∉ keywords) (hname : n ≠ "name")
      (htime : n ≠ "occurred_at") : PairFault (.name n :: .mark '=' joined :: ts) .unknownKey
  | text (joined : Bool) {ts : List Token}
      (h : ∀ written value rest, ts ≠ .literal ⟨written, .text value⟩ :: rest) :
      PairFault (.name "name" :: .mark '=' joined :: ts) (.expected .stringLiteral ts.isEmpty)
  | path (joined : Bool) {ts : List Token} {f : Fault} (h : PathFault ts f) :
      PairFault (.name "occurred_at" :: .mark '=' joined :: ts) f

/-- A setting ends before these tokens: a path does not go on. -/
def EventPair.Ends : EventPair → List Token → Prop
  | name _, _ => True
  | occurredAt _, ts => Token.beginsWith '.' ts = false

/-- What is wrong first with tokens that should be settings. -/
inductive ListFault : List Token → Fault → Prop
  | pair {ts : List Token} {f : Fault} (hne : ts ≠ []) (h : PairFault ts f) : ListFault ts f
  | after {ts rest : List Token} {p : EventPair} (h : PairForm ts p) (hne : rest ≠ [])
      (hends : p.Ends rest) (hcomma : Token.beginsWith ',' rest = false) :
      ListFault (ts ++ rest) (.expectedMark ",")
  | comma {ts rest : List Token} {p : EventPair} {joined : Bool} {f : Fault} (h : PairForm ts p)
      (hr : ListFault rest f) : ListFault (ts ++ .mark ',' joined :: rest) f

/-! ## The first piece -/

namespace Token

variable {t : Token} {ts rest : List Token}

/-- The tokens before the first comma. -/
def piece (ts : List Token) : List Token :=
  ts.takeWhile fun t => !t.isComma

/-- Whether there is a comma. -/
def hasComma (ts : List Token) : Bool :=
  ts.any isComma

theorem piece_cons (ht : t.isComma = false) (ts : List Token) : piece (t :: ts) = t :: piece ts :=
  List.takeWhile_cons_of_pos (by rw [ht]; rfl)

theorem hasComma_cons (ht : t.isComma = false) (ts : List Token) :
    hasComma (t :: ts) = hasComma ts := by
  rw [hasComma, List.any_cons, ht, Bool.false_or, hasComma]

theorem piece_of_comma (ht : t.isComma = true) (ts : List Token) : piece (t :: ts) = [] :=
  List.takeWhile_cons_of_neg (by rw [ht]; exact Bool.false_ne_true)

theorem hasComma_of_comma (ht : t.isComma = true) (ts : List Token) : hasComma (t :: ts) = true := by
  rw [hasComma, List.any_cons, ht, Bool.true_or]

theorem isComma_eq (t : Token) (ts : List Token) : t.isComma = beginsWith ',' (t :: ts) := by
  cases t with
  | mark c joined =>
    by_cases hc : c = ','
    · subst hc
      rfl
    · simp [isComma, beginsWith, hc]
  | _ => rfl

theorem piece_append (hts : ∀ t ∈ ts, t.isComma = false) (rest : List Token) :
    piece (ts ++ rest) = ts ++ piece rest :=
  List.takeWhile_append_of_pos fun t ht => by rw [hts t ht]; rfl

theorem piece_ne_nil (hne : ts ≠ []) (hc : beginsWith ',' ts = false) : piece ts ≠ [] := by
  obtain ⟨t, rest, rfl⟩ := List.exists_cons_of_ne_nil hne
  rw [piece_cons ((isComma_eq t rest).trans hc)]
  exact List.cons_ne_nil _ _

/-- The first piece stands before the first comma. -/
theorem exists_pieces_eq (hne : ts ≠ []) :
    ∃ others, pieces ts = (piece ts, hasComma ts) :: others := by
  induction ts with
  | nil => exact absurd rfl hne
  | cons t rest ih =>
    rw [pieces]
    cases ht : t.isComma with
    | true =>
      refine ⟨pieces rest, ?_⟩
      rw [if_pos rfl, piece_of_comma ht, hasComma_of_comma ht]
    | false =>
      rw [if_neg Bool.false_ne_true, piece_cons ht, hasComma_cons ht]
      by_cases hrest : rest = []
      · subst hrest
        exact ⟨[], rfl⟩
      · obtain ⟨others, heq⟩ := ih hrest
        refine ⟨others, ?_⟩
        rw [heq]

/-- Tokens without a comma, and a comma after them, are a piece. -/
theorem pieces_append_comma (hts : ∀ t ∈ ts, t.isComma = false) (joined : Bool)
    (rest : List Token) : pieces (ts ++ .mark ',' joined :: rest) = (ts, true) :: pieces rest := by
  induction ts with
  | nil => rfl
  | cons t ts ih =>
    rw [List.cons_append, pieces, if_neg (by rw [hts t List.mem_cons_self]; exact Bool.false_ne_true),
      ih fun x hx => hts x (List.mem_cons_of_mem _ hx)]

/-- Tokens without a comma are the only piece. -/
theorem pieces_of_no_comma (hts : ∀ t ∈ ts, t.isComma = false) (hne : ts ≠ []) :
    pieces ts = [(ts, false)] := by
  induction ts with
  | nil => exact absurd rfl hne
  | cons t ts ih =>
    rw [pieces, if_neg (by rw [hts t List.mem_cons_self]; exact Bool.false_ne_true)]
    by_cases hrest : ts = []
    · subst hrest
      rfl
    · rw [ih (fun x hx => hts x (List.mem_cons_of_mem _ hx)) hrest]

end Token
open Token (piece hasComma)

variable {ts rest : List Token} {f : Fault} {p : EventPair} {ps : List EventPair} {ns : List String}

/-! ## What follows the grammar is read -/

theorem PathForm.no_comma (h : PathForm ts ns) : ∀ t ∈ ts, t.isComma = false := by
  induction h with
  | last => exact List.forall_mem_singleton.2 rfl
  | point hn h ih => exact List.forall_mem_cons.2 ⟨rfl, List.forall_mem_cons.2 ⟨rfl, ih⟩⟩

theorem PairForm.no_comma (h : PairForm ts p) : ∀ t ∈ ts, t.isComma = false := by
  cases h with
  | name joined text =>
    exact List.forall_mem_cons.2 ⟨rfl, List.forall_mem_cons.2 ⟨rfl, List.forall_mem_singleton.2 rfl⟩⟩
  | occurredAt joined h =>
    exact List.forall_mem_cons.2 ⟨rfl, List.forall_mem_cons.2 ⟨rfl, h.no_comma⟩⟩

theorem PairForm.ne_nil (h : PairForm ts p) : ts ≠ [] := by
  cases h <;> exact List.cons_ne_nil _ _

namespace EventPair

theorem fieldNames_of_form (h : PathForm ts ns) (more : Bool) : fieldNames more ts = .ok ns := by
  induction h with
  | last hn => rw [fieldNames, if_neg hn]
  | point hn h ih =>
    rw [fieldNames, if_neg hn]
    simp only [ih]
    rfl

theorem ofTokens_name (more : Bool) {n : String} (hn : n ∉ keywords) (ts : List Token) :
    ofTokens more (.name n :: ts) =
      match ts with
      | .mark '=' _ :: value =>
        if n = "name" then readName more value
        else if n = "occurred_at" then readPath more value
        else .error .unknownKey
      | _ => .error (.expectedMark "=") := by
  rw [ofTokens, Token.identifier, if_neg hn]
  rfl

theorem ofTokens_of_form (h : PairForm ts p) (more : Bool) : ofTokens more ts = .ok p := by
  cases h with
  | name joined text => rfl
  | @occurredAt joined ts path h =>
    rw [ofTokens_name more (by decide)]
    show readPath more ts = _
    rw [readPath, fieldNames_of_form h]
    rfl

theorem readAll_of_form (h : ListForm ts ps) : readAll ts = .ok ps := by
  induction h with
  | nil => rfl
  | last h =>
    rw [readAll, Token.pieces_of_no_comma h.no_comma h.ne_nil, readPieces, ofTokens_of_form h]
    rfl
  | comma h hr ih =>
    rw [readAll] at ih
    rw [readAll, Token.pieces_append_comma h.no_comma, readPieces, ofTokens_of_form h, ih]
    rfl

/-! ## A fault is found -/

/-- Whether what is wrong is wrong with the first piece. -/
theorem readAll_of_first (hne : ts ≠ []) (h : ofTokens (hasComma ts) (piece ts) = .error f) :
    readAll ts = .error f := by
  obtain ⟨others, heq⟩ := Token.exists_pieces_eq hne
  rw [readAll, heq, readPieces, h]
  rfl

theorem identifier_of_noName (h : NoName ts f) :
    Token.identifier (hasComma ts) (piece ts) = .error f := by
  cases h with
  | atEnd => rfl
  | keyword hn rest => rw [Token.piece_cons rfl, Token.identifier, if_pos hn]
  | @other t ht rest =>
    cases hc : t.isComma with
    | true =>
      rw [Token.piece_of_comma hc, Token.hasComma_of_comma hc]
      rfl
    | false =>
      rw [Token.piece_cons hc]
      cases t with
      | name n => exact absurd rfl (ht n)
      | _ => rfl

theorem fieldNames_of_identifier {more : Bool} (h : Token.identifier more ts = .error f) :
    fieldNames more ts = .error f := by
  cases ts with
  | nil => exact congrArg Except.error (Except.error.inj h)
  | cons t rest =>
    cases t with
    | name n =>
      rw [Token.identifier] at h
      split at h
      · rename_i hn
        rw [fieldNames.eq_def]
        simp only [if_pos hn]
        exact congrArg Except.error (Except.error.inj h)
      · exact absurd h (by simp)
    | _ => exact congrArg Except.error (Except.error.inj h)

theorem fieldNames_of_fault (h : PathFault ts f) :
    fieldNames (hasComma ts) (piece ts) = .error f := by
  induction h with
  | here h => exact fieldNames_of_identifier (identifier_of_noName h)
  | point hn h ih =>
    rw [Token.piece_cons rfl, Token.piece_cons rfl, Token.hasComma_cons rfl,
      Token.hasComma_cons rfl, fieldNames, if_neg hn]
    simp only [ih]
    rfl

theorem readName_of_fault (h : ∀ written value rest, ts ≠ .literal ⟨written, .text value⟩ :: rest) :
    readName (hasComma ts) (piece ts) = .error (.expected .stringLiteral ts.isEmpty) := by
  cases ts with
  | nil => rfl
  | cons t rest =>
    cases hc : t.isComma with
    | true =>
      rw [Token.piece_of_comma hc, Token.hasComma_of_comma hc]
      rfl
    | false =>
      rw [Token.piece_cons hc]
      cases t with
      | literal l =>
        obtain ⟨written, kind⟩ := l
        cases kind with
        | text value => exact absurd rfl (h written value rest)
        | other => rfl
      | _ => rfl

/-- Tokens that do not begin with a mark do not begin with it up to the first comma. -/
theorem beginsWith_piece {c : Char} (h : Token.beginsWith c ts = false) :
    Token.beginsWith c (piece ts) = false := by
  cases ts with
  | nil => rfl
  | cons t rest =>
    cases hc : t.isComma with
    | true =>
      rw [Token.piece_of_comma hc]
      rfl
    | false =>
      rw [Token.piece_cons hc]
      cases t with
      | mark d joined => exact h
      | _ => rfl

theorem ofTokens_of_fault (h : PairFault ts f) :
    ofTokens (hasComma ts) (piece ts) = .error f := by
  cases h with
  | key h =>
    rw [ofTokens, identifier_of_noName h]
    rfl
  | @equals n ts hn h =>
    have hpiece := beginsWith_piece h
    rw [Token.piece_cons rfl, ofTokens_name _ hn]
    split
    · rename_i heq
      rw [heq] at hpiece
      exact absurd hpiece (by simp [Token.beginsWith])
    · rfl
  | unknown joined ts hn hname htime =>
    rw [Token.piece_cons rfl, Token.piece_cons rfl, ofTokens_name _ hn]
    simp only [if_neg hname, if_neg htime]
  | text joined h =>
    rw [Token.piece_cons rfl, Token.piece_cons rfl, Token.hasComma_cons rfl,
      Token.hasComma_cons rfl, ofTokens_name _ (by decide)]
    exact readName_of_fault h
  | path joined h =>
    rw [Token.piece_cons rfl, Token.piece_cons rfl, Token.hasComma_cons rfl,
      Token.hasComma_cons rfl, ofTokens_name _ (by decide)]
    show readPath _ _ = _
    rw [readPath, fieldNames_of_fault h]
    rfl

theorem fieldNames_of_rest (h : PathForm ts ns) (more : Bool) (hne : rest ≠ [])
    (hends : Token.beginsWith '.' rest = false) :
    fieldNames more (ts ++ rest) = .error (.expectedMark ",") := by
  induction h with
  | @last n hn =>
    show fieldNames more (.name n :: rest) = _
    rw [fieldNames.eq_def]
    simp only [if_neg hn]
    split
    · exact absurd rfl hne
    · exact absurd hends (by simp [Token.beginsWith])
    · rfl
  | @point n joined ts ns hn h ih =>
    show fieldNames more (.name n :: .mark '.' joined :: (ts ++ rest)) = _
    rw [fieldNames, if_neg hn]
    simp only [ih]
    rfl

/-- A setting is read to the end of its piece. -/
theorem ofTokens_of_rest (h : PairForm ts p) (more : Bool) (hne : rest ≠ []) (hends : p.Ends rest) :
    ofTokens more (ts ++ rest) = .error (.expectedMark ",") := by
  cases h with
  | name joined text =>
    obtain ⟨t, rest, rfl⟩ := List.exists_cons_of_ne_nil hne
    rfl
  | @occurredAt joined ts path h =>
    show ofTokens more (.name "occurred_at" :: .mark '=' joined :: (ts ++ rest)) = _
    rw [ofTokens_name _ (by decide)]
    show readPath more _ = _
    rw [readPath, fieldNames_of_rest h more hne hends]
    rfl

theorem Ends.piece (h : p.Ends rest) : p.Ends (piece rest) := by
  cases p with
  | name text => trivial
  | occurredAt path => exact beginsWith_piece h

theorem readAll_of_fault (h : ListFault ts f) : readAll ts = .error f := by
  induction h with
  | pair hne h => exact readAll_of_first hne (ofTokens_of_fault h)
  | @after ts rest p h hne hends hcomma =>
    refine readAll_of_first (List.append_ne_nil_of_left_ne_nil h.ne_nil rest) ?_
    rw [Token.piece_append h.no_comma]
    exact ofTokens_of_rest h _ (Token.piece_ne_nil hne hcomma) hends.piece
  | comma h hr ih =>
    rw [readAll] at ih
    rw [readAll, Token.pieces_append_comma h.no_comma, readPieces, ofTokens_of_form h, ih]
    rfl

end EventPair

/-! ## Grammar or fault -/

theorem path_or_fault : ∀ ts : List Token, (∃ f, PathFault ts f) ∨
    ∃ first ns rest, ts = first ++ rest ∧ PathForm first ns ∧ Token.beginsWith '.' rest = false
  | [] => Or.inl ⟨_, .here .atEnd⟩
  | .name n :: rest => by
    by_cases hn : n ∈ keywords
    · exact Or.inl ⟨_, .here (.keyword hn rest)⟩
    · cases hp : Token.beginsWith '.' rest with
      | false => exact Or.inr ⟨[.name n], [n], rest, rfl, .last hn, hp⟩
      | true =>
        obtain ⟨joined, after, rfl⟩ := Token.exists_of_beginsWith hp
        rcases path_or_fault after with ⟨f, h⟩ | ⟨first, ns, rest, rfl, h, hrest⟩
        · exact Or.inl ⟨f, .point hn h⟩
        · exact Or.inr ⟨_, n :: ns, rest, rfl, .point hn h, hrest⟩
  | .mark _ _ :: rest => Or.inl ⟨_, .here (.other (by simp) rest)⟩
  | .literal _ :: rest => Or.inl ⟨_, .here (.other (by simp) rest)⟩
  | .group _ _ :: rest => Or.inl ⟨_, .here (.other (by simp) rest)⟩

theorem PathForm.ne_nil (h : PathForm ts ns) : ns ≠ [] := by
  cases h <;> exact List.cons_ne_nil _ _

/-- Tokens that begin with a name are a setting and what follows it, or have a fault. -/
theorem pair_or_fault_of_name {n : String} (hn : n ∉ keywords) (ts : List Token) :
    (∃ f, PairFault (.name n :: ts) f) ∨
      ∃ first p rest, .name n :: ts = first ++ rest ∧ PairForm first p ∧ p.Ends rest := by
  cases he : Token.beginsWith '=' ts with
  | false => exact Or.inl ⟨_, .equals hn he⟩
  | true =>
    obtain ⟨joined, value, rfl⟩ := Token.exists_of_beginsWith he
    by_cases hname : n = "name"
    · subst hname
      by_cases htext : ∃ written text rest, value = .literal ⟨written, .text text⟩ :: rest
      · obtain ⟨written, text, rest, rfl⟩ := htext
        exact Or.inr ⟨_, _, rest, rfl, .name joined ⟨written, text⟩, trivial⟩
      · refine Or.inl ⟨_, .text joined fun written text rest heq => htext ?_⟩
        exact ⟨written, text, rest, heq⟩
    · by_cases htime : n = "occurred_at"
      · subst htime
        rcases path_or_fault value with ⟨f, h⟩ | ⟨first, ns, rest, rfl, h, hrest⟩
        · exact Or.inl ⟨f, .path joined h⟩
        · obtain ⟨root, inner, rfl⟩ := List.exists_cons_of_ne_nil h.ne_nil
          exact Or.inr ⟨_, .occurredAt ⟨root, inner⟩, rest, rfl, .occurredAt joined h, hrest⟩
      · exact Or.inl ⟨_, .unknown joined value hn hname htime⟩

theorem pair_or_fault (ts : List Token) : (∃ f, PairFault ts f) ∨
    ∃ first p rest, ts = first ++ rest ∧ PairForm first p ∧ p.Ends rest := by
  cases ts with
  | nil => exact Or.inl ⟨_, .key .atEnd⟩
  | cons t rest =>
    cases t with
    | name n =>
      by_cases hn : n ∈ keywords
      · exact Or.inl ⟨_, .key (.keyword hn rest)⟩
      · exact pair_or_fault_of_name hn rest
    | _ => exact Or.inl ⟨_, .key (.other (by simp) rest)⟩

/-- **Tokens follow the grammar, or they have a fault.** -/
theorem form_or_fault (ts : List Token) : (∃ ps, ListForm ts ps) ∨ ∃ f, ListFault ts f := by
  by_cases hne : ts = []
  · subst hne
    exact Or.inl ⟨[], .nil⟩
  rcases pair_or_fault ts with ⟨f, h⟩ | ⟨first, p, rest, rfl, h, hends⟩
  · exact Or.inr ⟨f, .pair hne h⟩
  by_cases hrest : rest = []
  · subst hrest
    rw [List.append_nil]
    exact Or.inl ⟨[p], .last h⟩
  cases hcomma : Token.beginsWith ',' rest with
  | false => exact Or.inr ⟨_, .after h hrest hends hcomma⟩
  | true =>
    obtain ⟨joined, others, rfl⟩ := Token.exists_of_beginsWith hcomma
    rcases form_or_fault others with ⟨ps, hps⟩ | ⟨f, hf⟩
    · exact Or.inl ⟨p :: ps, .comma h hps⟩
    · exact Or.inr ⟨f, .comma h hf⟩
termination_by ts.length
decreasing_by
  subst_vars
  rw [List.length_append, List.length_cons]
  omega

namespace EventPair

/-- **Settings are read if and only if the tokens follow the grammar.** -/
theorem readAll_eq_ok_iff : readAll ts = .ok ps ↔ ListForm ts ps := by
  refine ⟨fun h => ?_, readAll_of_form⟩
  rcases form_or_fault ts with ⟨qs, hqs⟩ | ⟨f, hf⟩
  · obtain rfl := Except.ok.inj ((readAll_of_form hqs).symm.trans h)
    exact hqs
  · exact absurd ((readAll_of_fault hf).symm.trans h) (by simp)

/-- **What is reported is what is wrong first.** -/
theorem readAll_eq_error_iff : readAll ts = .error f ↔ ListFault ts f := by
  refine ⟨fun h => ?_, readAll_of_fault⟩
  rcases form_or_fault ts with ⟨qs, hqs⟩ | ⟨g, hg⟩
  · exact absurd ((readAll_of_form hqs).symm.trans h) (by simp)
  · obtain rfl := Except.error.inj ((readAll_of_fault hg).symm.trans h)
    exact hg

end EventPair
end Derive
end Switchboard
