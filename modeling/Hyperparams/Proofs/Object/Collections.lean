import Mathlib
import Hyperparams.Object.Collection
import Hyperparams.Proofs.Object.Requests

/-!
# Items of collections

A list holds the positional arguments of its call, and a set holds the first of those that count as
one. Two floats may count as one without being the very same, and a NaN does not even count as one
with itself, so what carries the loop over the items is that counting as one is symmetric and
transitive.
-/

namespace Hyperparams

variable {ω : Type}

namespace Value

variable {u v w : Value}

/-- But for documents, values are the same only if they are equal or both are floats. -/
theorem eq_or_float_of_same (hv : ∀ doc, v ≠ .json doc) (h : v.same w = true) :
    v = w ∨ ∃ x y, v = .float x ∧ w = .float y ∧ (x == y) = true := by
  cases v <;> cases w
  case json.json doc _ => exact absurd rfl (hv doc)
  case float.float x y => exact .inr ⟨x, y, rfl, rfl, h⟩
  case none.none => exact .inl rfl
  all_goals first | cases h | exact .inl (by simpa [same] using h)

theorem same_comm (hv : ∀ doc, v ≠ .json doc) (w : Value) : v.same w = w.same v := by
  cases v <;> cases w
  case json.json doc _ => exact absurd rfl (hv doc)
  all_goals first | rfl | exact BEq.comm

/-- Sameness is transitive through a value that is no document. -/
theorem same_trans (hv : ∀ doc, v ≠ .json doc) (huv : u.same v = true) (hvw : v.same w = true) :
    u.same w = true := by
  rw [← same_comm hv] at huv
  obtain rfl | ⟨x, y, rfl, rfl, hxy⟩ := eq_or_float_of_same hv huv
  · exact hvw
  obtain rfl | ⟨x', z, hx, rfl, hxz⟩ := eq_or_float_of_same hv hvw
  · exact BEq.symm hxy
  · cases hx
    exact BEq.trans (BEq.symm hxy) hxz

end Value

namespace Argument

variable {a b c : Argument ω}

theorem isUnhashable_iff : isUnhashable a = true ↔ ∃ doc, a = .value (.json doc) := by
  constructor
  · intro h
    rcases a with (_ | _ | _ | _ | _ | doc) | _
    case value.json => exact ⟨doc, rfl⟩
    all_goals cases h
  · rintro ⟨doc, rfl⟩
    rfl

theorem ne_json_of_hashable {v : Value} (h : isUnhashable (.value v : Argument ω) = false)
    (doc : Json) : v ≠ .json doc := by
  rintro rfl
  cases h

theorem isSame_comm (ha : isUnhashable a = false) (b : Argument ω) :
    a.isSame b = b.isSame a := by
  cases a with
  | value v =>
      cases b with
      | value w => exact Value.same_comm (ne_json_of_hashable ha) w
      | object j => rfl
  | object i =>
      cases b with
      | value w => rfl
      | object j => exact decide_eq_decide.mpr eq_comm

theorem isSame_trans (hb : isUnhashable b = false) (hab : a.isSame b = true)
    (hbc : b.isSame c = true) : a.isSame c = true := by
  cases b with
  | value v =>
      cases a <;> cases c
      case value.value => exact Value.same_trans (ne_json_of_hashable hb) hab hbc
      all_goals first | cases hab | cases hbc
  | object j =>
      cases a <;> cases c
      case object.object =>
        exact decide_eq_true ((of_decide_eq_true hab).trans (of_decide_eq_true hbc))
      all_goals first | cases hab | cases hbc

end Argument

section Items

open Argument

variable {items : List (Argument ω)} {item : Argument ω}

/-- The items that no item in front of them counts as one with. -/
def firstItems (items : List (Argument ω)) : List (Argument ω) :=
  (items.zipIdx.filter fun entry => !(items.take entry.2).any (·.isSame entry.1)).map Prod.fst

/-- An item is a first one if none before it is the same. -/
theorem firstItems_append_singleton (items : List (Argument ω)) (item : Argument ω) :
    firstItems (items ++ [item]) = if items.any (·.isSame item) then firstItems items
      else firstItems items ++ [item] := by
  have hfront : items.zipIdx.filter
        (fun entry => !((items ++ [item]).take entry.2).any (·.isSame entry.1)) =
      items.zipIdx.filter fun entry => !(items.take entry.2).any (·.isSame entry.1) := by
    refine List.filter_congr fun entry hentry => ?_
    obtain ⟨hlt, -⟩ := List.getElem?_eq_some_iff.mp (List.mem_zipIdx_iff_getElem?.mp hentry)
    rw [List.take_append_of_le_length hlt.le]
  unfold firstItems
  rw [List.zipIdx_append, List.filter_append, hfront, List.zipIdx_singleton, Nat.zero_add,
    List.filter_singleton, List.take_left]
  cases items.any (·.isSame item) with
  | true => simp
  | false => simp

theorem distinctItems_append_singleton (items : List (Argument ω)) (item : Argument ω) :
    distinctItems (items ++ [item]) = if (distinctItems items).any (·.isSame item)
      then distinctItems items else distinctItems items ++ [item] := by
  unfold distinctItems
  rw [List.foldl_append]
  rfl

/-- Whether an item is dropped does not depend on what was dropped in front of it. -/
theorem any_distinctItems (h : ∀ other ∈ items, isUnhashable other = false)
    (item : Argument ω) :
    (distinctItems items).any (·.isSame item) = items.any (·.isSame item) := by
  induction items using List.reverseRecOn generalizing item with
  | nil => rfl
  | append_singleton items last ih =>
      obtain ⟨hitems, hlast⟩ := List.forall_mem_append.mp h
      have hhashable := hlast last (List.mem_singleton_self last)
      rw [distinctItems_append_singleton, List.any_append]
      split
      next hdropped =>
        -- the item that stands for the last one also stands for all that it counts as one with
        rw [ih hitems item, List.any_cons, List.any_nil, Bool.or_false]
        rw [ih hitems last] at hdropped
        obtain ⟨other, hother, hlast⟩ := List.any_eq_true.mp hdropped
        refine (Bool.or_eq_left_iff_imp.mpr fun hsame => ?_).symm
        exact List.any_eq_true.mpr ⟨other, hother, isSame_trans hhashable hlast hsame⟩
      next =>
        rw [List.any_append, ih hitems]

/-- The items of a set are the first of those that count as one. -/
theorem distinctItems_eq_firstItems (h : ∀ item ∈ items, isUnhashable item = false) :
    distinctItems items = firstItems items := by
  induction items using List.reverseRecOn with
  | nil => rfl
  | append_singleton items last ih =>
      have hitems := (List.forall_mem_append.mp h).1
      rw [distinctItems_append_singleton, firstItems_append_singleton, any_distinctItems hitems,
        ih hitems]

/-- No two of the items that are kept are the same. -/
theorem distinctItems_pairwise (items : List (Argument ω)) :
    (distinctItems items).Pairwise fun a b => a.isSame b = false := by
  induction items using List.reverseRecOn with
  | nil => exact .nil
  | append_singleton items last ih =>
      rw [distinctItems_append_singleton]
      split
      next => exact ih
      next hnew =>
        refine List.pairwise_append.mpr
          ⟨ih, List.pairwise_singleton _ _, fun kept hkept item hitem => ?_⟩
        rw [List.mem_singleton.mp hitem]
        exact Bool.eq_false_iff.mpr (List.any_eq_false.mp (Bool.eq_false_iff.mpr hnew) kept hkept)

theorem firstItems_sublist (items : List (Argument ω)) : (firstItems items).Sublist items := by
  have hmap := List.filter_sublist (p := fun entry : Argument ω × Nat =>
    !(items.take entry.2).any (·.isSame entry.1)) (l := items.zipIdx) |>.map Prod.fst
  rwa [List.zipIdx_map_fst] at hmap

/-- An item is the same as one of some items if it is the same as a first one. -/
theorem any_firstItems (h : ∀ other ∈ items, isUnhashable other = false) (item : Argument ω) :
    (firstItems items).any (·.isSame item) = items.any (·.isSame item) := by
  rw [← distinctItems_eq_firstItems h, any_distinctItems h]

theorem firstItems_hashable (h : ∀ other ∈ items, isUnhashable other = false) :
    ∀ other ∈ firstItems items, isUnhashable other = false :=
  fun other hother => h other ((firstItems_sublist items).subset hother)

theorem firstItems_pairwise (h : ∀ other ∈ items, isUnhashable other = false) :
    (firstItems items).Pairwise fun a b => a.isSame b = false := by
  rw [← distinctItems_eq_firstItems h]
  exact distinctItems_pairwise items

/-- No item of a set is dropped if no two items count as one. -/
theorem distinctItems_eq_self (h : items.Pairwise fun a b => a.isSame b = false) :
    distinctItems items = items := by
  induction items using List.reverseRecOn with
  | nil => rfl
  | append_singleton items last ih =>
      obtain ⟨hitems, -, hlast⟩ := List.pairwise_append.mp h
      have hnew : items.any (·.isSame last) = false :=
        List.any_eq_false.mpr fun item hitem =>
          Bool.eq_false_iff.mp (hlast item hitem last (List.mem_singleton_self last))
      rw [distinctItems_append_singleton, ih hitems, hnew, if_neg Bool.false_ne_true]

theorem containsValue_eq_any (items : List (Argument ω)) (v : Value) :
    containsValue items v = items.any (·.isSame (.value v)) := by
  refine congrArg (List.any items) (funext fun item => ?_)
  cases item <;> rfl

/-- A plain value is in a set if it was among the items that the set was made of. -/
theorem containsValue_firstItems (h : ∀ other ∈ items, isUnhashable other = false) (v : Value) :
    containsValue (firstItems items) v = true ↔ ∃ u, .value u ∈ items ∧ u.same v = true := by
  rw [containsValue_eq_any, any_firstItems h, List.any_eq_true]
  constructor
  · rintro ⟨_ | _, hu, hsame⟩
    · exact ⟨_, hu, hsame⟩
    · cases hsame
  · rintro ⟨u, hu, hsame⟩
    exact ⟨.value u, hu, hsame⟩

/-- Keeping the first items again changes nothing. -/
theorem firstItems_firstItems (h : ∀ other ∈ items, isUnhashable other = false) :
    firstItems (firstItems items) = firstItems items := by
  rw [← distinctItems_eq_firstItems (firstItems_hashable h),
    distinctItems_eq_self (firstItems_pairwise h)]

theorem forall_hashable_iff : (∀ item ∈ items, isUnhashable item = false) ↔
    ∀ doc, .value (.json doc) ∉ items := by
  constructor
  · intro h doc hmem
    cases h _ hmem
  · intro h item hitem
    refine Bool.eq_false_iff.mpr fun hjson => ?_
    obtain ⟨doc, rfl⟩ := isUnhashable_iff.mp hjson
    exact h doc hitem

theorem unhashable?_eq_none_iff :
    unhashable? items = none ↔ ∀ item ∈ items, isUnhashable item = false := by
  unfold unhashable?
  rw [List.find?_eq_none]
  constructor
  · intro h item hitem
    obtain ⟨index, hindex⟩ := List.mem_iff_getElem?.mp hitem
    exact Bool.eq_false_iff.mpr (h (item, index) (List.mem_zipIdx_iff_getElem?.mpr hindex))
  · intro h entry hentry
    exact Bool.eq_false_iff.mp (h entry.1 (List.fst_mem_of_mem_zipIdx hentry))

/-- The unhashable item that is found is the first one. -/
theorem unhashable?_eq_some_iff {index : Nat} :
    unhashable? items = some (item, index) ↔ items[index]? = some item ∧
      isUnhashable item = true ∧
        ∀ j < index, ∀ other, items[j]? = some other → isUnhashable other = false := by
  unfold unhashable?
  rw [List.find?_eq_some_iff_getElem]
  simp only [List.getElem_zipIdx, List.length_zipIdx, Prod.mk.injEq]
  constructor
  · rintro ⟨hitem, i, hlt, ⟨hget, hi⟩, hfront⟩
    rw [Nat.zero_add] at hi
    subst hi
    refine ⟨List.getElem?_eq_some_iff.mpr ⟨hlt, hget⟩, hitem, fun j hj other hother => ?_⟩
    obtain ⟨_, rfl⟩ := List.getElem?_eq_some_iff.mp hother
    exact Bool.not_eq_true' _ ▸ hfront j hj
  · rintro ⟨hget, hitem, hfront⟩
    obtain ⟨hlt, hget⟩ := List.getElem?_eq_some_iff.mp hget
    refine ⟨hitem, index, hlt, ⟨hget, Nat.zero_add index⟩, fun j hj => ?_⟩
    rw [Bool.not_eq_true']
    exact hfront j hj _ (List.getElem?_eq_getElem (hj.trans hlt))

end Items

section Calls

variable {classRef : String} {items : List (Argument ω)}
  {named : Sorted.Table String (Argument ω)}

namespace CallArgs

theorem takeRest_run_new (classRef : String) (items : List (Argument ω))
    (named : Sorted.Table String (Argument ω)) : takeRest.run (new classRef items named) =
      (.ok items, (new classRef items named).withoutPositions) := by
  have hitems : (items.map some).filterMap id = items := by
    rw [List.filterMap_map]
    exact List.filterMap_some
  rw [takeRest_run]
  exact congrArg (Except.ok ·, _) hitems

/-- Once the positional arguments are taken, only the named ones can be left. -/
theorem bind_finish_withoutPositions (classRef : String) (items : List (Argument ω))
    (named : Sorted.Table String (Argument ω)) :
    (new classRef items named).withoutPositions.bind finish =
      if named.keys = [] then .ok ()
      else .error (.argument (.unexpected classRef named.keys)) := by
  have hnamed : (new classRef items named).named = named := rfl
  unfold bind
  rw [finish_run_eq, leftovers_withoutPositions, hnamed]
  cases named.keys <;> rfl

theorem instancesOf_objects (classRef name : String) (instances : List (Instance ω)) :
    instancesOf classRef name (instances.map .object) = .ok instances := by
  have hpure := List.mapM_pure (m := Except ArgumentError) (l := instances.zipIdx) (f := Prod.fst)
  rw [List.zipIdx_map_fst] at hpure
  unfold instancesOf
  rw [List.zipIdx_map, List.mapM_map]
  exact hpure

end CallArgs

open CallArgs Argument

/-- A list holds the positional arguments of its call. -/
theorem listItems_new (classRef : String) (items : List (Argument ω)) :
    listItems (.new classRef items ∅) = .ok items := by
  have hfinish := bind_finish_withoutPositions classRef items ∅
  unfold CallArgs.bind at hfinish
  unfold listItems CallArgs.bind
  rw [run_bind, takeRest_run_new]
  dsimp only
  rw [run_bind]
  generalize finish.run (new classRef items ∅).withoutPositions = outcome at hfinish ⊢
  rcases outcome with ⟨_ | _, left⟩
  · cases hfinish
  · rfl

/-- What becomes of the positional arguments of a set, and of the arguments that are left. -/
theorem setItems_eq {args left : CallArgs ω} (h : takeRest.run args = (.ok items, left)) :
    setItems args = match unhashable? items with
      | some (item, index) => .error (.unhashable left.classRef index item.kind)
      | none => (fun _ => distinctItems items) <$> left.bind finish := by
  unfold setItems
  rw [h]
  dsimp only [Bind.bind, Except.bind]
  cases unhashable? items with
  | some entry => rfl
  | none => cases left.bind finish <;> rfl

/-- An unhashable item is refused with its position and its kind. -/
theorem setItems_of_unhashable {item : Argument ω} {index : Nat}
    (h : unhashable? items = some (item, index)) :
    setItems (.new classRef items named) = .error (.unhashable classRef index item.kind) := by
  rw [setItems_eq (takeRest_run_new classRef items named), h]
  rfl

/-- Hashable items make a set, unless there are named arguments. -/
theorem setItems_of_hashable (h : ∀ item ∈ items, isUnhashable item = false) :
    setItems (.new classRef items named) = if named.keys = [] then .ok (firstItems items)
      else .error (.argument (.unexpected classRef named.keys)) := by
  rw [setItems_eq (takeRest_run_new classRef items named), unhashable?_eq_none_iff.mpr h]
  dsimp only
  rw [bind_finish_withoutPositions, distinctItems_eq_firstItems h]
  cases named.keys <;> rfl

/-- Objects can be the items of a set, and those that were built at different places stay apart. -/
theorem setItems_objects (classRef : String) {instances : List (Instance ω)}
    (h : (instances.map Instance.origin).Nodup) :
    setItems (.new classRef (instances.map .object) ∅) = .ok (instances.map .object) := by
  have hhashable : ∀ item ∈ instances.map (@Argument.object ω), isUnhashable item = false :=
    List.forall_mem_map.mpr fun _ _ => rfl
  -- objects count as one by where they were built, and not by what they are
  have hdistinct : (instances.map Argument.object).Pairwise fun a b => a.isSame b = false :=
    List.pairwise_map.mpr ((List.pairwise_map.mp h).imp fun hne => decide_eq_false hne)
  rw [setItems_of_hashable hhashable, Sorted.Table.keys_empty, if_pos rfl,
    ← distinctItems_eq_firstItems hhashable, distinctItems_eq_self hdistinct]

theorem exists_unhashable (h : ¬ ∀ item ∈ items, isUnhashable item = false) :
    ∃ index doc, unhashable? items = some (.value (.json doc), index) := by
  cases hfirst : unhashable? items with
  | none => exact absurd (unhashable?_eq_none_iff.mp hfirst) h
  | some entry =>
      obtain ⟨item, index⟩ := entry
      obtain ⟨doc, rfl⟩ := isUnhashable_iff.mp (unhashable?_eq_some_iff.mp hfirst).2.1
      exact ⟨index, doc, rfl⟩

/-- Items are refused for the first document among them. -/
theorem setItems_eq_error_iff {e : ConstructError} :
    setItems (.new classRef items ∅) = .error e ↔
      ∃ index doc, items[index]? = some (.value (.json doc)) ∧
        (∀ j < index, ∀ doc', items[j]? ≠ some (.value (.json doc'))) ∧
        e = .unhashable classRef index (Value.json doc).kind := by
  constructor
  · intro h
    by_cases hhashable : ∀ item ∈ items, isUnhashable item = false
    · rw [setItems_of_hashable hhashable, Sorted.Table.keys_empty, if_pos rfl] at h
      cases h
    obtain ⟨index, doc, hfirst⟩ := exists_unhashable hhashable
    rw [setItems_of_unhashable hfirst] at h
    obtain ⟨hitem, -, hfront⟩ := unhashable?_eq_some_iff.mp hfirst
    refine ⟨index, doc, hitem, fun j hj doc' hjson => ?_, (Except.error.inj h).symm⟩
    cases hfront j hj _ hjson
  · rintro ⟨index, doc, hitem, hfront, rfl⟩
    have hfirst : unhashable? items = some (.value (.json doc), index) := by
      refine unhashable?_eq_some_iff.mpr ⟨hitem, rfl, fun j hj other hother => ?_⟩
      refine Bool.eq_false_iff.mpr fun hother' => ?_
      obtain ⟨doc', rfl⟩ := isUnhashable_iff.mp hother'
      exact hfront j hj doc' hother
    exact setItems_of_unhashable hfirst

/-- A set holds the first of each group of same items. -/
theorem setItems_eq_ok_iff {kept : List (Argument ω)} :
    setItems (.new classRef items ∅) = .ok kept ↔
      (∀ item ∈ items, isUnhashable item = false) ∧ kept = firstItems items := by
  by_cases hhashable : ∀ item ∈ items, isUnhashable item = false
  · rw [setItems_of_hashable hhashable, Sorted.Table.keys_empty, if_pos rfl]
    exact ⟨fun h => ⟨hhashable, (Except.ok.inj h).symm⟩, fun ⟨_, h⟩ => congrArg _ h.symm⟩
  · obtain ⟨index, doc, hfirst⟩ := exists_unhashable hhashable
    rw [setItems_of_unhashable hfirst]
    exact ⟨(nomatch ·), fun ⟨h, _⟩ => absurd h hhashable⟩

/-- A set refuses lists and dictionaries, the first of them by its position. Of other items it keeps
those that no item in front counts as one with. No two of these count as one, what was dropped is
still found, and a set of the items of a set is the set. Names are always refused. -/
theorem setItems_keeps_first (classRef : String) (positional : List (Argument ω)) :
    (∀ e, setItems (.new classRef positional ∅) = .error e ↔
      ∃ index doc, positional[index]? = some (.value (.json doc)) ∧
        (∀ j < index, ∀ doc', positional[j]? ≠ some (.value (.json doc'))) ∧
        e = .unhashable classRef index (Value.json doc).kind) ∧
    (∀ items, setItems (.new classRef positional ∅) = .ok items ↔
      (∀ doc, .value (.json doc) ∉ positional) ∧ items = firstItems positional) ∧
    (∀ items, setItems (.new classRef positional ∅) = .ok items →
      items.Pairwise (fun a b => a.isSame b = false ∧ b.isSame a = false) ∧
      (∀ item ∈ positional, item.isSame item = true → ∃ kept ∈ items, kept.isSame item = true) ∧
      (∀ v, containsValue items v = true ↔ ∃ u, .value u ∈ positional ∧ u.same v = true) ∧
      ∀ classRef', setItems (.new classRef' items ∅) = .ok items) ∧
    ∀ named, named ≠ ∅ → ∃ e, setItems (.new classRef positional named) = .error e := by
  refine ⟨fun e => setItems_eq_error_iff, fun items => ?_, fun items hitems => ?_,
    fun named hnamed => ?_⟩
  · rw [setItems_eq_ok_iff, forall_hashable_iff]
  · obtain ⟨hhashable, rfl⟩ := setItems_eq_ok_iff.mp hitems
    have hkept := firstItems_hashable hhashable
    refine ⟨?_, fun item hitem hself => ?_, containsValue_firstItems hhashable, fun classRef' => ?_⟩
    · refine (firstItems_pairwise hhashable).imp_of_mem fun ha _ hab => ⟨hab, ?_⟩
      rw [← isSame_comm (hkept _ ha), hab]
    · rw [← List.any_eq_true, any_firstItems hhashable]
      exact List.any_eq_true.mpr ⟨item, hitem, hself⟩
    · exact setItems_eq_ok_iff.mpr ⟨hkept, (firstItems_firstItems hhashable).symm⟩
  · by_cases hhashable : ∀ item ∈ positional, isUnhashable item = false
    · exact ⟨_, (setItems_of_hashable hhashable).trans
        (if_neg (mt Sorted.Table.keys_eq_nil_iff.mp hnamed))⟩
    · obtain ⟨index, doc, hfirst⟩ := exists_unhashable hhashable
      exact ⟨_, setItems_of_unhashable hfirst⟩

/-- A shared object is kept once, and a NaN as often as it is given. -/
theorem setItems_keeps_first_shared :
    setItems (.new "smepu.set" [.object ⟨"demo.A", "a", ()⟩, .value (.float (0.0 / 0.0)),
        .value (.int 1), .object ⟨"demo.A", "a", ()⟩, .value (.float (0.0 / 0.0)),
        .value (.int 1)] ∅) =
      .ok [.object ⟨"demo.A", "a", ()⟩, .value (.float (0.0 / 0.0)), .value (.int 1),
        .value (.float (0.0 / 0.0))] :=
  ((setItems_keeps_first _ _).2.1 _).mpr ⟨by simp, by rfl⟩

end Calls

end Hyperparams
