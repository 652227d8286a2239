import Mathlib.Data.List.Induction
import Switchboard.Logging.Sanitizer
import Switchboard.Proofs.Json.Position

/-!
# What is left of log data

Three limits are at work when log data is cut down, and they are counted differently.  Levels of nesting
are counted in the data that comes in.  A note about a long array puts one more level around the items
that are kept, which is not counted, so data that goes out can be nested twice as deep.  And what stands
for something nested too deep is a text that is not cut.

`Reaches` follows the cutting down from the outside in: which positions of the data are looked at, and
where in the outcome their image stands.  Each of them has its image there (`Reaches.image`), and besides
these images the outcome has nothing but notes (`shows_of_at?`).  Everything that bounds the outcome is
read off these two: `sanitize_bounded`.

Nothing is cut down exactly if the data keeps to all limits, or has strings that look as if they had been
cut already: `sanitize_eq_self_iff`.
-/

namespace Switchboard
namespace Sanitizer

variable {z : Sanitizer}

/-! ## Strings -/

theorem cut_of_le {s : String} (h : s.length ≤ z.maxText) : z.cut s = s :=
  if_pos h

theorem cut_of_lt {s : String} (h : z.maxText < s.length) :
    z.cut s = String.ofList (s.toList.take z.maxText) ++ "..." :=
  if_neg (Nat.not_le.2 h)

/-- A string that is cut keeps as many characters as the limit allows. -/
theorem length_take_toList {s : String} (h : z.maxText < s.length) :
    (String.ofList (s.toList.take z.maxText)).length = z.maxText := by
  rw [String.length_ofList, List.length_take, String.length_toList]
  omega

theorem length_cut_le (z : Sanitizer) (s : String) : (z.cut s).length ≤ z.maxText + 3 := by
  rcases Nat.lt_or_ge z.maxText s.length with h | h
  · rw [cut_of_lt h, String.length_append, length_take_toList h]
    exact Nat.le_refl _
  · rw [cut_of_le h]
    omega

/-- **A string stays as it is if it is short enough, or if it has been cut already.** -/
theorem cut_eq_self_iff {s : String} :
    z.cut s = s ↔
      s.length ≤ z.maxText ∨ ∃ kept : String, kept.length = z.maxText ∧ s = kept ++ "..." := by
  constructor
  · intro h
    rcases Nat.lt_or_ge z.maxText s.length with hlong | hshort
    · rw [cut_of_lt hlong] at h
      exact .inr ⟨_, length_take_toList hlong, h.symm⟩
    · exact .inl hshort
  · rintro (h | ⟨kept, hkept, rfl⟩)
    · exact cut_of_le h
    · have hlong : z.maxText < (kept ++ "...").length := by
        rw [String.length_append, hkept]
        exact Nat.lt_add_of_pos_right (by decide)
      have htake : (kept ++ "...").toList.take z.maxText = kept.toList := by
        rw [String.toList_append, ← hkept, ← String.length_toList, List.take_left]
      rw [cut_of_lt hlong, htake, String.ofList_toList]

/-! ## One level -/

theorem sanitizeItems_eq (z : Sanitizer) (depth count : Nat) (items : List Json) :
    z.sanitizeItems depth count items = (items.take count).map (z.sanitizeAt depth) := by
  induction items generalizing count with
  | nil => cases count <;> simp [sanitizeItems]
  | cons v rest ih =>
    cases count with
    | zero => simp [sanitizeItems]
    | succ count => rw [sanitizeItems, ih, List.take_succ_cons, List.map_cons]

theorem sanitizeMembers_eq (z : Sanitizer) (depth : Nat) (members : List (String × Json)) :
    z.sanitizeMembers depth members = members.map fun m => (m.1, z.sanitizeAt depth m.2) := by
  induction members with
  | nil => simp [sanitizeMembers]
  | cons m rest ih => rw [sanitizeMembers, ih, List.map_cons]

/-- The members of a note about a long array. -/
theorem shortened_eq (size : Nat) (kept : List Json) :
    shortened size kept =
      .obj [("_elements", .arr kept), ("_length", .int size), ("_truncated", .bool true)] := by
  simp only [shortened, Json.object, Members.ofList, Members.insert, List.foldl_cons, List.foldl_nil,
    String.reduceLT, String.reduceEq, reduceIte]

section OneLevel

variable {depth : Nat} {items : List Json} {members : List (String × Json)}

theorem sanitizeAt_arr_of_deep (h : z.maxDepth ≤ depth) :
    z.sanitizeAt depth (.arr items) = .str (arraySummary items.length) := by
  rw [sanitizeAt, if_pos h]

theorem sanitizeAt_arr_of_le (h : depth < z.maxDepth) (hle : items.length ≤ z.maxItems) :
    z.sanitizeAt depth (.arr items) = .arr (items.map (z.sanitizeAt (depth + 1))) := by
  rw [sanitizeAt, if_neg (Nat.not_le.2 h)]
  dsimp only
  rw [if_neg (Nat.not_lt.2 hle), sanitizeItems_eq, List.take_of_length_le hle]

theorem sanitizeAt_arr_of_lt (h : depth < z.maxDepth) (hlt : z.maxItems < items.length) :
    z.sanitizeAt depth (.arr items) =
      shortened items.length ((items.take z.maxItems).map (z.sanitizeAt (depth + 1))) := by
  rw [sanitizeAt, if_neg (Nat.not_le.2 h)]
  dsimp only
  rw [if_pos hlt, sanitizeItems_eq]

theorem sanitizeAt_obj_of_deep (h : z.maxDepth ≤ depth) :
    z.sanitizeAt depth (.obj members) = .str (objectSummary members.length) := by
  rw [sanitizeAt, if_pos h]

theorem sanitizeAt_obj_of_lt (h : depth < z.maxDepth) :
    z.sanitizeAt depth (.obj members) =
      .obj (members.map fun m => (m.1, z.sanitizeAt (depth + 1) m.2)) := by
  rw [sanitizeAt, if_neg (Nat.not_le.2 h), sanitizeMembers_eq]

theorem sanitizeAt_of_isScalar {v : Json} (h : v.isScalar = true) : z.sanitizeAt depth v = v := by
  cases v with
  | str | arr | obj => exact absurd h Bool.noConfusion
  | _ => simp [sanitizeAt]

/-- What can become of a value at one level. -/
inductive Becomes (z : Sanitizer) (depth : Nat) : Json → Json → Prop
  | text (s : String) : Becomes z depth (.str s) (.str (z.cut s))
  | deepArray {items : List Json} (h : z.maxDepth ≤ depth) :
      Becomes z depth (.arr items) (.str (arraySummary items.length))
  | array {items : List Json} (h : depth < z.maxDepth) (hle : items.length ≤ z.maxItems) :
      Becomes z depth (.arr items) (.arr (items.map (z.sanitizeAt (depth + 1))))
  | longArray {items : List Json} (h : depth < z.maxDepth) (hlt : z.maxItems < items.length) :
      Becomes z depth (.arr items)
        (shortened items.length ((items.take z.maxItems).map (z.sanitizeAt (depth + 1))))
  | deepObject {members : List (String × Json)} (h : z.maxDepth ≤ depth) :
      Becomes z depth (.obj members) (.str (objectSummary members.length))
  | object {members : List (String × Json)} (h : depth < z.maxDepth) :
      Becomes z depth (.obj members)
        (.obj (members.map fun m => (m.1, z.sanitizeAt (depth + 1) m.2)))
  | scalar {v : Json} (h : v.isScalar = true) : Becomes z depth v v

/-- **These are all the cases.** -/
theorem becomes_sanitizeAt (z : Sanitizer) (depth : Nat) (v : Json) :
    z.Becomes depth v (z.sanitizeAt depth v) := by
  cases v with
  | str s =>
    rw [sanitizeAt]
    exact .text s
  | arr items =>
    rcases Nat.lt_or_ge depth z.maxDepth with h | h
    · rcases Nat.lt_or_ge z.maxItems items.length with hlt | hle
      · rw [sanitizeAt_arr_of_lt h hlt]
        exact .longArray h hlt
      · rw [sanitizeAt_arr_of_le h hle]
        exact .array h hle
    · rw [sanitizeAt_arr_of_deep h]
      exact .deepArray h
  | obj members =>
    rcases Nat.lt_or_ge depth z.maxDepth with h | h
    · rw [sanitizeAt_obj_of_lt h]
      exact .object h
    · rw [sanitizeAt_obj_of_deep h]
      exact .deepObject h
  | _ =>
    rw [sanitizeAt_of_isScalar rfl]
    exact .scalar rfl

end OneLevel

/-! ## Which positions are looked at, and where their images stand -/

/-- The position `p` of a value is looked at when the value is cut down, `x` stands there, and its image
stands at the position `q` of the outcome.  Only the first items of an array are looked at.  If these are
not all, they stand in the first member of a note. -/
inductive Reaches (z : Sanitizer) (v : Json) : (p q : List Nat) → (x : Json) → Prop
  | root : Reaches z v [] [] v
  | item {p q : List Nat} {items : List Json} {i : Nat} {c : Json} (h : Reaches z v p q (.arr items))
      (hp : p.length < z.maxDepth) (hi : i < z.maxItems) (hc : items[i]? = some c) :
      Reaches z v (p ++ [i]) (if items.length ≤ z.maxItems then q ++ [i] else q ++ [0] ++ [i]) c
  | member {p q : List Nat} {members : List (String × Json)} {i : Nat} {m : String × Json}
      (h : Reaches z v p q (.obj members)) (hp : p.length < z.maxDepth) (hm : members[i]? = some m) :
      Reaches z v (p ++ [i]) (q ++ [i]) m.2

namespace Reaches

variable {v x : Json} {p q : List Nat}

/-- The value stands there. -/
theorem at? (h : z.Reaches v p q x) : v.at? p = some x := by
  induction h with
  | root => rfl
  | item _ _ _ hc ih => exact (Json.at?_concat_of_at? ih _).trans hc
  | @member p q members i m _ _ hm ih =>
    refine (Json.at?_concat_of_at? ih i).trans ?_
    rw [Json.children, List.getElem?_map, hm]
    rfl

/-- Nothing is looked at that is nested deeper than the limit. -/
theorem length_le (h : z.Reaches v p q x) : p.length ≤ z.maxDepth := by
  cases h with
  | root => exact Nat.zero_le _
  | item _ hp _ _ =>
    rw [List.length_append]
    exact hp
  | member _ hp _ =>
    rw [List.length_append]
    exact hp

/-- Images are nested at most twice as deep. -/
theorem length_image_le (h : z.Reaches v p q x) : q.length ≤ 2 * p.length := by
  induction h with
  | root => exact Nat.zero_le _
  | item _ _ _ _ ih =>
    split <;> simp only [List.length_append, List.length_singleton] <;> omega
  | member _ _ _ ih =>
    simp only [List.length_append, List.length_singleton]
    omega

/-- **What is looked at has its image at its place.** -/
theorem image (h : z.Reaches v p q x) :
    (z.sanitize v).at? q = some (z.sanitizeAt p.length x) := by
  induction h with
  | root => rfl
  | @item p q items i c _ hp hi hc ih =>
    rw [List.length_append, List.length_singleton]
    split
    · rename_i hle
      rw [sanitizeAt_arr_of_le hp hle] at ih
      rw [Json.at?_concat_of_at? ih, Json.children, List.getElem?_map, hc]
      rfl
    · rename_i hlong
      rw [sanitizeAt_arr_of_lt hp (Nat.not_le.1 hlong), shortened_eq] at ih
      have hkept : (z.sanitize v).at? (q ++ [0]) =
          some (.arr ((items.take z.maxItems).map (z.sanitizeAt (p.length + 1)))) :=
        Json.at?_concat_of_at? ih 0
      rw [Json.at?_concat_of_at? hkept, Json.children, List.getElem?_map,
        List.getElem?_take_of_lt hi, hc]
      rfl
  | @member p q members i m _ hp hm ih =>
    rw [sanitizeAt_obj_of_lt hp] at ih
    rw [List.length_append, List.length_singleton, Json.at?_concat_of_at? ih, Json.children,
      List.map_map, List.getElem?_map, hm]
    rfl

/-- Only the first items of arrays are looked at. -/
theorem index_lt (h : z.Reaches v p q x) {p' : List Nat} {i : Nat} {items : List Json}
    (hbegins : p' ++ [i] <+: p) (harr : v.at? p' = some (.arr items)) : i < z.maxItems := by
  induction h with
  | root => exact absurd (List.prefix_nil.1 hbegins) (by simp)
  | item _ _ hi _ ih =>
    rcases List.prefix_concat_iff.1 hbegins with heq | hbefore
    · obtain ⟨-, rfl⟩ := List.append_inj' heq rfl |>.imp_right List.singleton_inj.1
      exact hi
    · exact ih hbefore
  | member hobj _ _ ih =>
    rcases List.prefix_concat_iff.1 hbegins with heq | hbefore
    · obtain ⟨rfl, -⟩ := List.append_inj' heq rfl
      exact absurd (hobj.at?.symm.trans harr) (by simp)
    · exact ih hbefore

end Reaches

/-- **What is looked at.**  These are the positions down to the level of the limit that go through none
but the first items of arrays. -/
theorem exists_reaches_iff {v x : Json} {p : List Nat} :
    (∃ q, z.Reaches v p q x) ↔ v.at? p = some x ∧ p.length ≤ z.maxDepth ∧
      ∀ p' i items, p' ++ [i] <+: p → v.at? p' = some (.arr items) → i < z.maxItems := by
  constructor
  · rintro ⟨q, h⟩
    exact ⟨h.at?, h.length_le, fun p' i items hbegins harr => h.index_lt hbegins harr⟩
  · induction p using List.reverseRecOn generalizing x with
    | nil =>
      rintro ⟨hx, -, -⟩
      obtain rfl := Option.some.inj hx
      exact ⟨[], .root⟩
    | append_singleton p i ih =>
      rintro ⟨hx, hlength, hindex⟩
      obtain ⟨y, hy, hc⟩ := Json.at?_concat_eq_some.1 hx
      rw [List.length_append, List.length_singleton] at hlength
      obtain ⟨q, hq⟩ := ih ⟨hy, Nat.le_of_succ_le hlength, fun p' j items hbegins =>
        hindex p' j items (hbegins.trans (List.prefix_append p [i]))⟩
      cases y with
      | arr items => exact ⟨_, hq.item hlength (hindex p i items (List.prefix_refl _) hy) hc⟩
      | obj members =>
        rw [Json.children, List.getElem?_map, Option.map_eq_some_iff] at hc
        obtain ⟨m, hm, rfl⟩ := hc
        exact ⟨_, hq.member hlength hm⟩
      | _ => exact absurd hc (by simp [Json.children])

/-- What stands at a position of the outcome: the image of something that has been looked at, or one of
the three members of a note about a long array. -/
inductive Shows (z : Sanitizer) (v : Json) : (r : List Nat) → (y : Json) → Prop
  | image {p r : List Nat} {x : Json} (h : Reaches z v p r x) : Shows z v r (z.sanitizeAt p.length x)
  | kept {p q : List Nat} {items : List Json} (h : Reaches z v p q (.arr items))
      (hp : p.length < z.maxDepth) (hlong : z.maxItems < items.length) :
      Shows z v (q ++ [0]) (.arr ((items.take z.maxItems).map (z.sanitizeAt (p.length + 1))))
  | size {p q : List Nat} {items : List Json} (h : Reaches z v p q (.arr items)) :
      Shows z v (q ++ [1]) (.int items.length)
  | mark {p q : List Nat} {items : List Json} (h : Reaches z v p q (.arr items)) :
      Shows z v (q ++ [2]) (.bool true)

/-- The items of an array that are kept are images. -/
theorem Shows.of_kept {v c : Json} {p q : List Nat} {items : List Json} {i : Nat}
    (h : z.Reaches v p q (.arr items)) (hp : p.length < z.maxDepth)
    (hc : ((items.take z.maxItems).map (z.sanitizeAt (p.length + 1)))[i]? = some c) :
    z.Shows v (if items.length ≤ z.maxItems then q ++ [i] else q ++ [0] ++ [i]) c := by
  rw [List.getElem?_map, Option.map_eq_some_iff] at hc
  obtain ⟨a, ha, rfl⟩ := hc
  obtain ⟨hi, -⟩ := List.getElem?_eq_some_iff.1 ha
  have hlt : i < z.maxItems := Nat.lt_of_lt_of_le hi (List.length_take_le _ _)
  rw [List.getElem?_take_of_lt hlt] at ha
  have himage := Shows.image (h.item hp hlt ha)
  rwa [List.length_append, List.length_singleton] at himage

/-- What stands inside the image of something has come from inside it. -/
theorem Shows.of_image {v x c : Json} {p r : List Nat} {i : Nat} (h : z.Reaches v p r x)
    (hc : (z.sanitizeAt p.length x).children[i]? = some c) : z.Shows v (r ++ [i]) c := by
  have hbecomes := z.becomes_sanitizeAt p.length x
  generalize z.sanitizeAt p.length x = y at hbecomes hc
  cases hbecomes with
  | array hp hle =>
    have hkept := Shows.of_kept (c := c) (i := i) h hp (by rwa [List.take_of_length_le hle])
    rwa [if_pos hle] at hkept
  | longArray hp hlt =>
    rw [shortened_eq] at hc
    match i, hc with
    | 0, hc =>
      obtain rfl := Option.some.inj hc
      exact .kept h hp hlt
    | 1, hc =>
      obtain rfl := Option.some.inj hc
      exact .size h
    | 2, hc =>
      obtain rfl := Option.some.inj hc
      exact .mark h
  | object hp =>
    rw [Json.children, List.map_map, List.getElem?_map, Option.map_eq_some_iff] at hc
    obtain ⟨m, hm, rfl⟩ := hc
    have himage := Shows.image (h.member hp hm)
    rwa [List.length_append, List.length_singleton] at himage
  | scalar hscalar => exact absurd hc (by simp [Json.children_of_isScalar hscalar])
  | _ => exact absurd hc (by simp [Json.children])

/-- What stands one level further in shows something as well. -/
theorem Shows.step {v y c : Json} {r : List Nat} {i : Nat} (h : z.Shows v r y)
    (hc : y.children[i]? = some c) : z.Shows v (r ++ [i]) c := by
  cases h with
  | image hreached => exact of_image hreached hc
  | @kept p q items hreached hp hlong =>
    have hkept := of_kept hreached hp hc
    rwa [if_neg (Nat.not_le.2 hlong)] at hkept
  | size => exact absurd hc (by simp [Json.children])
  | mark => exact absurd hc (by simp [Json.children])

/-- **The outcome has nothing but images and notes.** -/
theorem shows_of_at? {v y : Json} {r : List Nat} (h : (z.sanitize v).at? r = some y) :
    z.Shows v r y := by
  induction r using List.reverseRecOn generalizing y with
  | nil =>
    obtain rfl := Option.some.inj h
    exact .image .root
  | append_singleton r i ih =>
    obtain ⟨x, hx, hc⟩ := Json.at?_concat_eq_some.1 h
    exact (ih hx).step hc

/-! ## Bounds -/

/-- The text that summarises something of a value that is nested as deep as nothing may be. -/
def Summarises (z : Sanitizer) (v : Json) (s : String) : Prop :=
  ∃ p : List Nat, p.length = z.maxDepth ∧
    ((∃ items, v.at? p = some (.arr items) ∧ s = "<array: " ++ toString items.length ++ " items>") ∨
      ∃ members, v.at? p = some (.obj members) ∧ s = "<object: " ++ toString members.length ++ " keys>")

/-- What may stand at a position of the outcome. -/
def Allows (z : Sanitizer) (v : Json) (r : List Nat) : Json → Prop
  | .arr items => items.length ≤ z.maxItems ∧ r.length < 2 * z.maxDepth
  | .obj _ => r.length < 2 * z.maxDepth
  | .str s => s.length ≤ z.maxText + 3 ∨ z.Summarises v s
  | _ => True

/-- **Whatever stands in the outcome keeps to the bounds.** -/
theorem Shows.allows {v y : Json} {r : List Nat} (h : z.Shows v r y) : z.Allows v r y := by
  cases h with
  | @image p r x hreached =>
    have hlevel : r.length ≤ 2 * p.length := hreached.length_image_le
    have hbecomes := z.becomes_sanitizeAt p.length x
    generalize z.sanitizeAt p.length x = y at hbecomes
    cases hbecomes with
    | text s => exact .inl (z.length_cut_le s)
    | @deepArray items hdeep =>
      exact .inr ⟨p, Nat.le_antisymm hreached.length_le hdeep, .inl ⟨items, hreached.at?, rfl⟩⟩
    | array hp hle => exact ⟨by rwa [List.length_map], by omega⟩
    | longArray hp =>
      rw [shortened_eq]
      show r.length < 2 * z.maxDepth
      omega
    | @deepObject members hdeep =>
      exact .inr ⟨p, Nat.le_antisymm hreached.length_le hdeep, .inr ⟨members, hreached.at?, rfl⟩⟩
    | object hp =>
      show r.length < 2 * z.maxDepth
      omega
    | scalar hscalar =>
      cases x with
      | str | arr | obj => exact absurd hscalar Bool.noConfusion
      | _ => trivial
  | @kept p q items hreached hp =>
    -- The items that are kept are one level further in than their note.
    have hlevel : q.length ≤ 2 * p.length := hreached.length_image_le
    refine ⟨?_, ?_⟩
    · rw [List.length_map]
      exact List.length_take_le _ _
    · rw [List.length_append, List.length_singleton]
      omega
  | size => trivial
  | mark => trivial

/-- **Log data that has been cut down is bounded.**  In the outcome every array has at most so many items
as the limit says, every string is at most three characters longer than its limit or summarises an array
or object that is nested as deep as nothing may be, and arrays and objects are nested at most twice as
deep as the limit says.

What is looked at are the positions down to that level that go through none but the first items of
arrays.  Every object that is looked at above that level keeps exactly its keys.  Every array that is
looked at there has the images of all its items in their order, or it is replaced by a note with its true
length and the images of its first items in their order. -/
theorem sanitize_bounded (z : Sanitizer) (v : Json) :
    (∀ r items, (z.sanitize v).at? r = some (.arr items) → items.length ≤ z.maxItems) ∧
    (∀ r s, (z.sanitize v).at? r = some (.str s) → s.length ≤ z.maxText + 3 ∨ z.Summarises v s) ∧
    (∀ r x, (z.sanitize v).at? r = some x → x.isContainer = true → r.length < 2 * z.maxDepth) ∧
    (∀ p x, (∃ q, z.Reaches v p q x) ↔ v.at? p = some x ∧ p.length ≤ z.maxDepth ∧
      ∀ p' i items, p' ++ [i] <+: p → v.at? p' = some (.arr items) → i < z.maxItems) ∧
    (∀ p q members, z.Reaches v p q (.obj members) → p.length < z.maxDepth →
      ∃ images, (z.sanitize v).at? q = some (.obj images) ∧
        images.map Prod.fst = members.map Prod.fst) ∧
    ∀ p q items, z.Reaches v p q (.arr items) → p.length < z.maxDepth →
      (items.length ≤ z.maxItems ∧
        (z.sanitize v).at? q = some (.arr (items.map (z.sanitizeAt (p.length + 1))))) ∨
      (z.maxItems < items.length ∧
        (z.sanitize v).at? q = some (.obj
          [("_elements", .arr ((items.take z.maxItems).map (z.sanitizeAt (p.length + 1)))),
            ("_length", .int items.length), ("_truncated", .bool true)])) := by
  refine ⟨fun r items h => ?_, fun r s h => ?_, fun r x h hcontainer => ?_, fun p x => ?_,
    fun p q members h hp => ?_, fun p q items h hp => ?_⟩
  · exact (shows_of_at? h).allows.1
  · exact (shows_of_at? h).allows
  · have hallows := (shows_of_at? h).allows
    cases x with
    | arr => exact hallows.2
    | obj => exact hallows
    | _ => exact absurd hcontainer Bool.noConfusion
  · exact exists_reaches_iff
  · have himage := h.image
    rw [sanitizeAt_obj_of_lt hp] at himage
    exact ⟨_, himage, by rw [List.map_map]; rfl⟩
  · have himage := h.image
    rcases Nat.lt_or_ge z.maxItems items.length with hlt | hle
    · rw [sanitizeAt_arr_of_lt hp hlt, shortened_eq] at himage
      exact .inr ⟨hlt, himage⟩
    · rw [sanitizeAt_arr_of_le hp hle] at himage
      exact .inl ⟨hle, himage⟩

/-- The bound on the nesting is reached: the items of an array at level 0 that is too long stand in an
array at level 1. -/
example : (Sanitizer.sanitize ⟨0, 1, 1⟩ (.arr [.null, .null])).at? [0] = some (.arr [.null]) := by
  rfl

/-! ## What stays as it is -/

/-- A value that keeps to the limits at its level, whatever stands in it. -/
def Admits (z : Sanitizer) (depth : Nat) : Json → Prop
  | .arr items => depth < z.maxDepth ∧ items.length ≤ z.maxItems
  | .obj _ => depth < z.maxDepth
  | .str s => s.length ≤ z.maxText ∨ ∃ kept : String, kept.length = z.maxText ∧ s = kept ++ "..."
  | _ => True

theorem map_eq_self_iff {α : Type} {f : α → α} {l : List α} : l.map f = l ↔ ∀ a ∈ l, f a = a := by
  rw [← List.map_inj_left (g := fun a => a), List.map_id']

/-- A value stays as it is if it keeps to the limits and its children stay as they are. -/
theorem sanitizeAt_eq_self_step {depth : Nat} {v : Json} :
    z.sanitizeAt depth v = v ↔
      z.Admits depth v ∧ ∀ c ∈ v.children, z.sanitizeAt (depth + 1) c = c := by
  have hbecomes := z.becomes_sanitizeAt depth v
  generalize z.sanitizeAt depth v = w at hbecomes
  cases hbecomes with
  | text s => simp [Admits, Json.children, cut_eq_self_iff]
  | deepArray h => simp [Admits, Nat.not_lt.2 h]
  | array h hle => simp [Admits, Json.children, h, hle, map_eq_self_iff]
  | longArray h hlt => simp [Admits, shortened_eq, Nat.not_le.2 hlt]
  | deepObject h => simp [Admits, Nat.not_lt.2 h]
  | @object members h =>
    have hmembers : Json.obj (members.map fun m => (m.1, z.sanitizeAt (depth + 1) m.2)) = .obj members ↔
        ∀ m ∈ members, z.sanitizeAt (depth + 1) m.2 = m.2 := by
      simp [map_eq_self_iff, Prod.ext_iff]
    rw [hmembers, Json.children, List.forall_mem_map]
    exact (and_iff_right h).symm
  | scalar h =>
    refine iff_of_true rfl ⟨?_, ?_⟩
    · cases v with
      | str | arr | obj => exact absurd h Bool.noConfusion
      | _ => trivial
    · rw [Json.children_of_isScalar h]
      exact fun c hc => absurd hc List.not_mem_nil

/-- **A value stays as it is if whatever stands in it keeps to the limits at its level.** -/
theorem sanitizeAt_eq_self_iff {depth : Nat} {v : Json} :
    z.sanitizeAt depth v = v ↔ ∀ p x, v.at? p = some x → z.Admits (depth + p.length) x := by
  induction v using Json.ofChildren generalizing depth with
  | h v ih =>
    rw [sanitizeAt_eq_self_step, Json.forall_at?_iff]
    refine and_congr_right fun _ => ?_
    constructor
    · intro hchildren i c hc p x hx
      have hmem : c ∈ v.children := List.mem_of_getElem? hc
      have hadmits := (ih c hmem).1 (hchildren c hmem) p x hx
      rwa [List.length_cons, Nat.add_comm p.length, ← Nat.add_assoc]
    · intro hinside c hmem
      obtain ⟨i, hc⟩ := List.getElem?_of_mem hmem
      refine (ih c hmem).2 fun p x hx => ?_
      have hadmits := hinside i c hc p x hx
      rwa [List.length_cons, Nat.add_comm p.length, ← Nat.add_assoc] at hadmits

/-- **Log data stays as it is exactly if nothing in it exceeds a limit.**  No array and no object is
nested as deep as nothing may be, no array has too many items, and every string is short enough or has
as many characters as the limit says and three dots after them. -/
theorem sanitize_eq_self_iff (z : Sanitizer) (v : Json) :
    z.sanitize v = v ↔
      (∀ p x, v.at? p = some x → x.isContainer = true → p.length < z.maxDepth) ∧
      (∀ p items, v.at? p = some (.arr items) → items.length ≤ z.maxItems) ∧
      ∀ p s, v.at? p = some (.str s) →
        s.length ≤ z.maxText ∨ ∃ kept : String, kept.length = z.maxText ∧ s = kept ++ "..." := by
  rw [sanitize, sanitizeAt_eq_self_iff]
  constructor
  · intro h
    refine ⟨fun p x hx hcontainer => ?_, fun p items hx => (h p _ hx).2, fun p s hx => h p _ hx⟩
    have hadmits := h p x hx
    rw [Nat.zero_add] at hadmits
    cases x with
    | arr => exact hadmits.1
    | obj => exact hadmits
    | _ => exact absurd hcontainer Bool.noConfusion
  · rintro ⟨hdepth, hitems, htext⟩ p x hx
    rw [Nat.zero_add]
    cases x with
    | arr items => exact ⟨hdepth p _ hx rfl, hitems p items hx⟩
    | obj => exact hdepth p _ hx rfl
    | str s => exact htext p s hx
    | _ => trivial

end Sanitizer
end Switchboard
