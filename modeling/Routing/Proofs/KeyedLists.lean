import Mathlib.Data.List.Nodup
import Mathlib.Tactic.SplitIfs
import Std.Data.TreeMap

/-! Lists of pairs that are changed key by key: a new value for a key stands where the key stood. -/
namespace Routing.Keyed

variable {α : Type}

/-- Gives a key a value: in the place of its old one, or else at the end. -/
def put (pairs : List (String × α)) (key : String) (value : α) : List (String × α) :=
  if pairs.any (·.1 == key) then pairs.map fun (k, v) => if k = key then (k, value) else (k, v)
  else pairs ++ [(key, value)]

theorem any_key (pairs : List (String × α)) (key : String) :
    pairs.any (·.1 == key) = true ↔ key ∈ pairs.map Prod.fst := by
  rw [List.any_eq_true, List.mem_map]
  simp only [beq_iff_eq]

theorem put_of_mem {pairs : List (String × α)} {key : String} (h : key ∈ pairs.map Prod.fst)
    (value : α) :
    put pairs key value = pairs.map fun p => (p.1, if p.1 = key then value else p.2) := by
  unfold put
  rw [if_pos ((any_key pairs key).mpr h)]
  refine List.map_congr_left fun (k, v) _ => ?_
  by_cases hk : k = key <;> simp [hk]

theorem put_of_not_mem {pairs : List (String × α)} {key : String} (h : key ∉ pairs.map Prod.fst)
    (value : α) : put pairs key value = pairs ++ [(key, value)] := by
  unfold put
  rw [if_neg (mt (any_key pairs key).mp h)]

theorem keys_put (pairs : List (String × α)) (key : String) (value : α) :
    (put pairs key value).map Prod.fst =
      if key ∈ pairs.map Prod.fst then pairs.map Prod.fst else pairs.map Prod.fst ++ [key] := by
  split_ifs with hmem
  · rw [put_of_mem hmem, List.map_map]
    rfl
  · rw [put_of_not_mem hmem, List.map_append]
    rfl

theorem nodup_put {pairs : List (String × α)} (h : (pairs.map Prod.fst).Nodup) (key : String)
    (value : α) : ((put pairs key value).map Prod.fst).Nodup := by
  rw [keys_put]
  split_ifs with hmem
  · exact h
  · have hlast : (pairs.map Prod.fst).Disjoint [key] := by simpa using hmem
    exact h.append (List.nodup_singleton key) hlast

theorem mem_put_iff (pairs : List (String × α)) (key : String) (value : α) (p : String × α) :
    p ∈ put pairs key value ↔ p = (key, value) ∨ p.1 ≠ key ∧ p ∈ pairs := by
  obtain ⟨name, here⟩ := p
  by_cases hmem : key ∈ pairs.map Prod.fst
  · rw [put_of_mem hmem, List.mem_map]
    constructor
    · rintro ⟨old, hold, he⟩
      cases he
      by_cases hk : old.1 = key
      · exact .inl (by simp [hk])
      · exact .inr (by simpa [hk] using hold)
    · rintro (he | ⟨hk, hold⟩)
      · cases he
        obtain ⟨old, hold, rfl⟩ := List.mem_map.mp hmem
        exact ⟨old, hold, by simp⟩
      · exact ⟨(name, here), hold, by simp [hk]⟩
  · rw [put_of_not_mem hmem, List.mem_append, List.mem_singleton]
    constructor
    · rintro (hold | he)
      · exact .inr ⟨fun hk => hmem (hk ▸ List.mem_map_of_mem hold), hold⟩
      · exact .inl he
    · rintro (he | ⟨-, hold⟩)
      · exact .inr he
      · exact .inl hold

theorem mem_put {pairs : List (String × α)} {key : String} {value : α} {p : String × α}
    (h : p ∈ put pairs key value) : p = (key, value) ∨ p ∈ pairs :=
  ((mem_put_iff pairs key value p).mp h).imp_right And.right

theorem lookup_map {β : Type} (pairs : List (String × α)) (f : String → α → β) (key : String) :
    (pairs.map fun p => (p.1, f p.1 p.2)).lookup key = (pairs.lookup key).map (f key) := by
  induction pairs with
  | nil => rfl
  | cons pair pairs ih =>
    obtain ⟨first, value⟩ := pair
    rw [List.map_cons, List.lookup_cons, List.lookup_cons, ih]
    by_cases hfirst : key = first
    · simp [hfirst]
    · rw [beq_false_of_ne hfirst]

theorem lookup_isSome_iff (pairs : List (String × α)) (key : String) :
    (pairs.lookup key).isSome = true ↔ key ∈ pairs.map Prod.fst := by
  rw [List.lookup_isSome_iff, List.mem_map]
  simp only [beq_iff_eq, @eq_comm _ key]

theorem lookup_put (pairs : List (String × α)) (key : String) (value : α) (other : String) :
    (put pairs key value).lookup other = if other = key then some value else pairs.lookup other := by
  by_cases hmem : key ∈ pairs.map Prod.fst
  · rw [put_of_mem hmem, lookup_map pairs fun k old => if k = key then value else old]
    split_ifs with hother
    · obtain ⟨old, hold⟩ := Option.isSome_iff_exists.mp ((lookup_isSome_iff pairs key).mpr hmem)
      rw [hother, hold, Option.map_some]
    · exact Option.map_id'
  · rw [put_of_not_mem hmem, List.lookup_append, List.lookup_cons, List.lookup_nil]
    have hnone : pairs.lookup key = none := by
      rwa [← lookup_isSome_iff, Option.not_isSome_iff_eq_none] at hmem
    split_ifs with hother
    · simp [hother, hnone]
    · simp [beq_false_of_ne hother]

/-- What many changes come to when no key is among them twice: new values for the old keys, and then the
new keys. -/
theorem foldl_put (base : List (String × α)) {pairs : List (String × α)}
    (h : (pairs.map Prod.fst).Nodup) :
    pairs.foldl (fun all pair => put all pair.1 pair.2) base =
      (base.map fun p => (p.1, (pairs.lookup p.1).getD p.2)) ++
        pairs.filter fun p => p.1 ∉ base.map Prod.fst := by
  induction pairs generalizing base with
  | nil => simp
  | cons pair pairs ih =>
    obtain ⟨key, value⟩ := pair
    rw [List.map_cons, List.nodup_cons] at h
    have hnone : pairs.lookup key = none := by
      rw [← Option.not_isSome_iff_eq_none, lookup_isSome_iff]
      exact h.1
    have hvalue (k : String) (old : α) : (((key, value) :: pairs).lookup k).getD old =
        (pairs.lookup k).getD (if k = key then value else old) := by
      rw [List.lookup_cons]
      by_cases hk : k = key
      · simp [hk, hnone]
      · simp [hk, beq_false_of_ne hk]
    rw [List.foldl_cons, ih _ h.2, keys_put]
    simp only [hvalue]
    by_cases hmem : key ∈ base.map Prod.fst
    · rw [put_of_mem hmem, List.map_map, if_pos hmem, List.filter_cons_of_neg (by simpa using hmem)]
      rfl
    · -- The rest does not hold the key, so that its being among the old ones makes no difference.
      have hrest : pairs.filter (fun p => p.1 ∉ base.map Prod.fst ++ [key]) =
          pairs.filter fun p => p.1 ∉ base.map Prod.fst := by
        refine List.filter_congr fun p hp => ?_
        have hne : p.1 ≠ key := fun he => h.1 (List.mem_map.mpr ⟨p, hp, he⟩)
        simp [hne]
      have hbase : (base.map fun p => (p.1, (pairs.lookup p.1).getD (if p.1 = key then value else p.2))) =
          base.map fun p => (p.1, (pairs.lookup p.1).getD p.2) := by
        refine List.map_congr_left fun p hp => ?_
        have hne : p.1 ≠ key := fun he => hmem (List.mem_map.mpr ⟨p, hp, he⟩)
        rw [if_neg hne]
      rw [put_of_not_mem hmem, if_neg hmem, hrest, hbase, List.map_append,
        List.filter_cons_of_pos (by simpa using hmem)]
      simp [hnone]

theorem lookup_of_mem {α β : Type} [DecidableEq α] {l : List (α × β)}
    (hnodup : (l.map Prod.fst).Nodup) {p : α × β} (hp : p ∈ l) : l.lookup p.1 = some p.2 := by
  induction l with
  | nil => cases hp
  | cons q l ih =>
    rw [List.map_cons, List.nodup_cons] at hnodup
    rcases List.mem_cons.mp hp with rfl | hmem
    · exact List.lookup_cons_self
    · have hne : p.1 ≠ q.1 := fun he => hnodup.1 (he ▸ List.mem_map_of_mem hmem)
      obtain ⟨key, value⟩ := q
      rw [List.lookup_cons, beq_false_of_ne hne]
      exact ih hnodup.2 hmem

theorem lookup_reverse {l : List (String × α)} (hnodup : (l.map Prod.fst).Nodup) (key : String) :
    l.reverse.lookup key = l.lookup key := by
  have hreverse : (l.reverse.map Prod.fst).Nodup := by
    rw [List.map_reverse]
    exact List.nodup_reverse.mpr hnodup
  by_cases hkey : key ∈ l.map Prod.fst
  · obtain ⟨p, hp, rfl⟩ := List.mem_map.mp hkey
    rw [lookup_of_mem hnodup hp, lookup_of_mem hreverse (List.mem_reverse.mpr hp)]
  · have hkey' : key ∉ l.reverse.map Prod.fst := by simpa using hkey
    rw [← lookup_isSome_iff, Option.not_isSome_iff_eq_none] at hkey hkey'
    rw [hkey, hkey']

/-- The value is the last one that stands under the key. -/
def Last (pairs : List (String × α)) (key : String) (value : α) : Prop :=
  ∃ before after, pairs = before ++ (key, value) :: after ∧ key ∉ after.map Prod.fst

theorem lookup_eq_none_iff (pairs : List (String × α)) (key : String) :
    pairs.lookup key = none ↔ key ∉ pairs.map Prod.fst := by
  rw [← Option.not_isSome_iff_eq_none, lookup_isSome_iff]

theorem lookup_reverse_eq_none (pairs : List (String × α)) (key : String) :
    pairs.reverse.lookup key = none ↔ key ∉ pairs.map Prod.fst := by
  rw [lookup_eq_none_iff, List.map_reverse, List.mem_reverse]

theorem lookup_reverse_eq_some {pairs : List (String × α)} {key : String} {value : α} :
    pairs.reverse.lookup key = some value ↔ Last pairs key value := by
  have hafter (after : List (String × α)) :
      (∀ p ∈ after.reverse, (key != p.1) = true) ↔ key ∉ after.map Prod.fst := by
    rw [← lookup_reverse_eq_none, List.lookup_eq_none_iff]
  rw [List.lookup_eq_some_iff]
  constructor
  · rintro ⟨after, before, hsplit, hrest⟩
    refine ⟨before.reverse, after.reverse, ?_, ?_⟩
    · have hpairs := congrArg List.reverse hsplit
      simpa using hpairs
    · rw [← hafter, List.reverse_reverse]
      exact hrest
  · rintro ⟨before, after, rfl, hrest⟩
    refine ⟨after.reverse, before.reverse, by simp, ?_⟩
    exact (hafter after).mpr hrest

theorem nodup_toList (values : Std.TreeMap String String) : (values.toList.map Prod.fst).Nodup := by
  rw [Std.TreeMap.map_fst_toList_eq_keys]
  exact Std.TreeMap.nodup_keys

theorem lookup_toList (values : Std.TreeMap String String) (key : String) :
    values.toList.lookup key = values[key]? := by
  cases hvalue : values[key]? with
  | some value =>
    exact lookup_of_mem (nodup_toList values) (Std.TreeMap.mem_toList_iff_getElem?_eq_some.mpr hvalue)
  | none =>
    rw [List.lookup_eq_none_iff]
    intro p hp
    have hsome := Std.TreeMap.mem_toList_iff_getElem?_eq_some.mp hp
    have hne : key ≠ p.1 := by
      rintro rfl
      rw [hvalue] at hsome
      cases hsome
    simpa using hne

/-- The value that is inserted last is the one that stays. -/
theorem getElem?_foldl_insert (pairs : List (String × String)) (values : Std.TreeMap String String)
    (key : String) :
    (pairs.foldl (fun values (key, value) => values.insert key value) values)[key]? =
      (pairs.reverse.lookup key).or values[key]? := by
  induction pairs generalizing values with
  | nil => rfl
  | cons pair pairs ih =>
    obtain ⟨first, value⟩ := pair
    rw [List.foldl_cons, ih, List.reverse_cons, List.lookup_append, Option.or_assoc,
      Std.TreeMap.getElem?_insert, List.lookup_cons, List.lookup_nil]
    simp only [Std.LawfulEqCmp.compare_eq_iff_eq]
    by_cases hkey : key = first
    · simp [hkey]
    · simp [beq_false_of_ne hkey, Ne.symm hkey]

end Routing.Keyed
