import Mathlib.Data.List.Induction
import Routing.Proofs.ActionGroups

/-! Descriptions of resources as sequences of calls: which actions they leave in a group, how each of them
is answered, and in which order they stand. -/
namespace Routing

/-- A call that says which actions a resource has. -/
inductive BuilderCall
  | only (names : List String)
  | except (names : List String)
  | withMember (name : String) (method : MethodMask)
  | withCollection (name : String) (method : MethodMask)
deriving DecidableEq, Repr

/-- The two groups of actions: on one of many, and on the resource as a whole. -/
inductive ActionGroup
  | member
  | collection
deriving DecidableEq, Repr

namespace BuilderCall

def apply (r : Resource) : BuilderCall → Resource
  | only names => r.only names
  | except names => r.except names
  | withMember name method => r.withMember name method
  | withCollection name method => r.withCollection name method

/-- The action that the call puts into the group. -/
def inserts? (group : ActionGroup) : BuilderCall → Option (String × MethodMask)
  | withMember name method => if group = .member then some (name, method) else none
  | withCollection name method => if group = .collection then some (name, method) else none
  | _ => none

/-- Whether the call leaves an action of that name where it is. -/
def keeps (name : String) : BuilderCall → Bool
  | only names => names.contains name
  | except names => !names.contains name
  | _ => true

theorem keeps_of_inserts? {group : ActionGroup} {call : BuilderCall} {p : String × MethodMask}
    (h : call.inserts? group = some p) (name : String) : call.keeps name = true := by
  cases call with
  | only | except => cases h
  | withMember | withCollection => rfl

end BuilderCall

namespace Resource

def actions (r : Resource) : ActionGroup → Actions
  | .member => r.member
  | .collection => r.collection

def describe (r : Resource) (calls : List BuilderCall) : Resource := calls.foldl BuilderCall.apply r

def namesAfter (r : Resource) (calls : List BuilderCall) (group : ActionGroup) : List String :=
  ((r.describe calls).actions group).map Prod.fst

/-- The resource has the group: the only one of its kind has no actions on one of many. -/
def Has (r : Resource) (group : ActionGroup) : Prop := group = .member → r.isSingleton = false

end Resource

/-- What the calls say about a name: the last call that puts it into the group decides, if every later
call keeps it, and without such a call the action that was there, if every call keeps it. -/
def Stands (before : Actions) (group : ActionGroup) (calls : List BuilderCall) (name : String)
    (action : Action) : Prop :=
  (∃ earlier call later method, calls = earlier ++ call :: later ∧
    call.inserts? group = some (name, method) ∧ action = Resource.named method ∧
    ∀ next ∈ later, next.keeps name = true ∧ ∀ method, next.inserts? group ≠ some (name, method)) ∨
  (name, action) ∈ before ∧
    ∀ call ∈ calls, call.keeps name = true ∧ ∀ method, call.inserts? group ≠ some (name, method)

/-- The name is in the group ever since the first `k` calls, and it was not there just before. -/
structure StandsSince (r : Resource) (group : ActionGroup) (calls : List BuilderCall) (name : String)
    (k : Nat) : Prop where
  le : k ≤ calls.length
  present : ∀ j, k ≤ j → j ≤ calls.length → name ∈ r.namesAfter (calls.take j) group
  inserted : ∀ j, j + 1 = k → name ∉ r.namesAfter (calls.take j) group

namespace Resource

variable {r : Resource} {group : ActionGroup} {calls : List BuilderCall} {call : BuilderCall}
  {name : String} {action : Action} {method : MethodMask}

theorem describe_concat (r : Resource) (calls : List BuilderCall) (call : BuilderCall) :
    r.describe (calls ++ [call]) = call.apply (r.describe calls) := by
  unfold describe
  rw [List.foldl_append]
  rfl

theorem isSingleton_apply (r : Resource) (call : BuilderCall) :
    (call.apply r).isSingleton = r.isSingleton := by
  cases call with
  | withMember name method =>
    rw [BuilderCall.apply, withMember]
    split_ifs <;> rfl
  | _ => rfl

theorem Has.describe (h : r.Has group) (calls : List BuilderCall) : (r.describe calls).Has group := by
  induction calls using List.reverseRecOn with
  | nil => exact h
  | append_singleton calls call ih =>
    rw [describe_concat]
    exact fun hmember => (isSingleton_apply _ call).trans (ih hmember)

/-- What one call does to a group. -/
theorem actions_apply (h : r.Has group) (call : BuilderCall) :
    (call.apply r).actions group = match call.inserts? group with
      | some (name, method) => (r.actions group).put name (named method)
      | none => (r.actions group).filter fun p => call.keeps p.1 := by
  cases call with
  | only names => cases group <;> rfl
  | except names => cases group <;> rfl
  | withMember name method =>
    cases group with
    | member =>
      rw [BuilderCall.apply, withMember, if_neg (by simp [h rfl])]
      rfl
    | collection =>
      rw [BuilderCall.apply, withMember]
      split_ifs <;> exact (List.filter_eq_self.mpr fun _ _ => rfl).symm
  | withCollection name method =>
    cases group with
    | member => exact (List.filter_eq_self.mpr fun _ _ => rfl).symm
    | collection => rfl

theorem mem_actions_apply (h : r.Has group) :
    (name, action) ∈ (call.apply r).actions group ↔
      (∃ method, call.inserts? group = some (name, method) ∧ action = named method) ∨
        (call.keeps name = true ∧ ∀ method, call.inserts? group ≠ some (name, method)) ∧
          (name, action) ∈ r.actions group := by
  rw [actions_apply h]
  cases hinserts : call.inserts? group with
  | none => simp [List.mem_filter, and_comm]
  | some p =>
    obtain ⟨other, method⟩ := p
    have hput := Keyed.mem_put_iff (r.actions group) other (named method) (name, action)
    refine hput.trans ⟨?_, ?_⟩
    · rintro (he | ⟨hname, hmem⟩)
      · cases he
        exact .inl ⟨method, rfl, rfl⟩
      · refine .inr ⟨⟨BuilderCall.keeps_of_inserts? hinserts name, fun method' he => hname ?_⟩, hmem⟩
        cases he
        rfl
    · rintro (⟨method', he, rfl⟩ | ⟨⟨-, hother⟩, hmem⟩)
      · cases he
        exact .inl rfl
      · refine .inr ⟨fun hname => hother method ?_, hmem⟩
        cases hname
        rfl

end Resource

theorem stands_concat {before : Actions} {group : ActionGroup} {calls : List BuilderCall}
    {call : BuilderCall} {name : String} {action : Action} :
    Stands before group (calls ++ [call]) name action ↔
      (∃ method, call.inserts? group = some (name, method) ∧ action = Resource.named method) ∨
        (call.keeps name = true ∧ ∀ method, call.inserts? group ≠ some (name, method)) ∧
          Stands before group calls name action := by
  constructor
  · rintro (⟨earlier, last, later, method, hsplit, hinserts, haction, hlater⟩ | ⟨hmem, hall⟩)
    · rcases later.eq_nil_or_concat' with rfl | ⟨later, next, rfl⟩
      · obtain ⟨-, hlast⟩ := List.append_inj' hsplit rfl
        cases hlast
        exact .inl ⟨method, hinserts, haction⟩
      · rw [← List.cons_append, ← List.append_assoc] at hsplit
        obtain ⟨rfl, hlast⟩ := List.append_inj' hsplit rfl
        cases hlast
        rw [List.forall_mem_append, List.forall_mem_singleton] at hlater
        exact .inr ⟨hlater.2, .inl ⟨earlier, last, later, method, rfl, hinserts, haction, hlater.1⟩⟩
    · rw [List.forall_mem_append, List.forall_mem_singleton] at hall
      exact .inr ⟨hall.2, .inr ⟨hmem, hall.1⟩⟩
  · rintro (⟨method, hinserts, haction⟩ |
      ⟨hkeeps, ⟨earlier, last, later, method, rfl, hinserts, haction, hlater⟩ | ⟨hmem, hall⟩⟩)
    · exact .inl ⟨calls, call, [], method, rfl, hinserts, haction, by simp⟩
    · refine .inl ⟨earlier, last, later ++ [call], method, by simp, hinserts, haction, ?_⟩
      rw [List.forall_mem_append, List.forall_mem_singleton]
      exact ⟨hlater, hkeeps⟩
    · refine .inr ⟨hmem, ?_⟩
      rw [List.forall_mem_append, List.forall_mem_singleton]
      exact ⟨hall, hkeeps⟩

namespace Resource

section Groups

variable {r : Resource} {group : ActionGroup} {calls : List BuilderCall} {call : BuilderCall}
  {name : String} {action : Action} {method : MethodMask} {j k : Nat}

theorem mem_actions_describe (h : r.Has group) :
    (name, action) ∈ (r.describe calls).actions group ↔
      Stands (r.actions group) group calls name action := by
  induction calls using List.reverseRecOn with
  | nil => simp [describe, Stands]
  | append_singleton calls call ih =>
    rw [describe_concat, mem_actions_apply (h.describe calls), ih, stands_concat]

/-- An action that is there already is replaced in its place. -/
theorem namesAfter_of_mem (h : r.Has group) (hinserts : call.inserts? group = some (name, method))
    (hmem : name ∈ r.namesAfter calls group) :
    r.namesAfter (calls ++ [call]) group = r.namesAfter calls group := by
  have hkeys := Keyed.keys_put ((r.describe calls).actions group) name (named method)
  unfold namesAfter at hmem ⊢
  rw [describe_concat, actions_apply (h.describe calls), hinserts]
  exact hkeys.trans (if_pos hmem)

/-- A call either puts a new name at the end, or leaves no others than those that were there. -/
theorem namesAfter_cases (h : r.Has group) (calls : List BuilderCall) (call : BuilderCall) :
    (∃ name method, call.inserts? group = some (name, method) ∧ name ∉ r.namesAfter calls group ∧
        r.namesAfter (calls ++ [call]) group = r.namesAfter calls group ++ [name]) ∨
      (r.namesAfter (calls ++ [call]) group).Sublist (r.namesAfter calls group) := by
  cases hinserts : call.inserts? group with
  | none =>
    refine .inr ?_
    unfold namesAfter
    rw [describe_concat, actions_apply (h.describe calls), hinserts]
    exact List.filter_sublist.map _
  | some p =>
    obtain ⟨name, method⟩ := p
    by_cases hmem : name ∈ r.namesAfter calls group
    · exact .inr (namesAfter_of_mem h hinserts hmem ▸ List.Sublist.refl _)
    · have hkeys := Keyed.keys_put ((r.describe calls).actions group) name (named method)
      refine .inl ⟨name, method, rfl, hmem, ?_⟩
      unfold namesAfter at hmem ⊢
      rw [describe_concat, actions_apply (h.describe calls), hinserts]
      exact hkeys.trans (if_neg hmem)

theorem nodup_namesAfter (h : r.Has group) (hnodup : (r.namesAfter [] group).Nodup)
    (calls : List BuilderCall) : (r.namesAfter calls group).Nodup := by
  induction calls using List.reverseRecOn with
  | nil => exact hnodup
  | append_singleton calls call ih =>
    rcases namesAfter_cases h calls call with ⟨name, _, -, hnew, hnames⟩ | hsub
    · rw [hnames]
      exact ih.append (List.nodup_singleton name) (by simpa using hnew)
    · exact ih.sublist hsub

end Groups

end Resource

namespace StandsSince

variable {r : Resource} {group : ActionGroup} {calls : List BuilderCall} {call : BuilderCall}
  {name : String} {k k' : Nat}

theorem namesAfter_take (r : Resource) (group : ActionGroup) (call : BuilderCall) {j : Nat}
    (h : j ≤ calls.length) :
    r.namesAfter ((calls ++ [call]).take j) group = r.namesAfter (calls.take j) group := by
  rw [List.take_append_of_le_length h]

theorem mem (h : StandsSince r group calls name k) : name ∈ r.namesAfter calls group := by
  have hlast := h.present calls.length h.le (Nat.le_refl _)
  rwa [List.take_length] at hlast

theorem unique (h : StandsSince r group calls name k) (h' : StandsSince r group calls name k') :
    k = k' := by
  have hle {i j : Nat} (hi : StandsSince r group calls name i) (hj : StandsSince r group calls name j) :
      j ≤ i := by
    by_contra hlt
    have hj' := hj.le
    exact hj.inserted (j - 1) (by omega) (hi.present (j - 1) (by omega) (by omega))
  exact Nat.le_antisymm (hle h' h) (hle h h')

/-- A name that one more call leaves in the group has been there as long as before. -/
theorem of_concat (h : StandsSince r group (calls ++ [call]) name k)
    (hmem : name ∈ r.namesAfter calls group) : StandsSince r group calls name k := by
  have hle := h.le
  rw [List.length_append, List.length_singleton] at hle
  have hk : k ≤ calls.length := by
    by_contra hlt
    refine h.inserted calls.length (by omega) ?_
    rwa [namesAfter_take r group call (Nat.le_refl _), List.take_length]
  refine ⟨hk, fun j hj hjle => ?_, fun j hj => ?_⟩
  · rw [← namesAfter_take r group call hjle]
    exact h.present j hj (by rw [List.length_append]; omega)
  · rw [← namesAfter_take r group call (by omega)]
    exact h.inserted j hj

theorem concat (h : StandsSince r group calls name k)
    (hmem : name ∈ r.namesAfter (calls ++ [call]) group) :
    StandsSince r group (calls ++ [call]) name k := by
  have hle := h.le
  refine ⟨by rw [List.length_append]; omega, fun j hj hjle => ?_, fun j hj => ?_⟩
  · rw [List.length_append, List.length_singleton] at hjle
    rcases Nat.lt_or_eq_of_le hjle with hlt | rfl
    · rw [namesAfter_take r group call (by omega)]
      exact h.present j hj (by omega)
    · rwa [List.take_of_length_le (by simp)]
  · rw [namesAfter_take r group call (by omega)]
    exact h.inserted j hj

/-- A name that was not there before the last call stands since that call. -/
theorem of_not_mem (h : StandsSince r group (calls ++ [call]) name k)
    (hnew : name ∉ r.namesAfter calls group) : k = calls.length + 1 := by
  have hle := h.le
  rw [List.length_append, List.length_singleton] at hle
  by_contra hne
  refine hnew ?_
  have hpresent := h.present calls.length (by omega) (by rw [List.length_append]; omega)
  rwa [namesAfter_take r group call (Nat.le_refl _), List.take_length] at hpresent

theorem last (hmem : name ∈ r.namesAfter (calls ++ [call]) group)
    (hnew : name ∉ r.namesAfter calls group) :
    StandsSince r group (calls ++ [call]) name (calls.length + 1) := by
  refine ⟨by simp, fun j hj _ => ?_, fun j hj => ?_⟩
  · rwa [List.take_of_length_le (by simpa using hj)]
  · obtain rfl : j = calls.length := by omega
    rwa [namesAfter_take r group call (Nat.le_refl _), List.take_length]

end StandsSince

namespace Resource

section Order

variable {r : Resource} {group : ActionGroup} {calls : List BuilderCall} {name : String}

/-- Whatever stands in a group was there from the start, or a call has put it there. -/
theorem exists_standsSince (h : r.Has group) (hmem : name ∈ r.namesAfter calls group) :
    ∃ k, StandsSince r group calls name k ∧
      ∀ j, j + 1 = k → ∃ call method, calls[j]? = some call ∧
        call.inserts? group = some (name, method) := by
  induction calls using List.reverseRecOn with
  | nil => exact ⟨0, ⟨Nat.le_refl 0, fun j _ _ => by simpa using hmem, nofun⟩, nofun⟩
  | append_singleton calls call ih =>
    by_cases hold : name ∈ r.namesAfter calls group
    · obtain ⟨k, hk, hcall⟩ := ih hold
      refine ⟨k, hk.concat hmem, fun j hj => ?_⟩
      have hle := hk.le
      rw [List.getElem?_append_left (by omega)]
      exact hcall j hj
    · refine ⟨calls.length + 1, .last hmem hold, fun j hj => ?_⟩
      obtain rfl : j = calls.length := by omega
      refine ⟨call, ?_⟩
      rcases namesAfter_cases h calls call with ⟨other, method, hinserts, -, hnames⟩ | hsub
      · rw [hnames, List.mem_append, List.mem_singleton] at hmem
        obtain rfl := hmem.resolve_left hold
        exact ⟨method, by simp, hinserts⟩
      · exact absurd (hsub.subset hmem) hold

/-- Names stand in the order in which they were put there; those that were there from the start come
first, in the order that they had. -/
theorem pairwise_namesAfter (h : r.Has group) (calls : List BuilderCall) :
    (r.namesAfter calls group).Pairwise fun a b =>
      ∀ i j, StandsSince r group calls a i → StandsSince r group calls b j →
        i < j ∨ i = 0 ∧ j = 0 ∧ [a, b].Sublist (r.namesAfter [] group) := by
  induction calls using List.reverseRecOn with
  | nil =>
    rw [List.pairwise_iff_forall_sublist]
    intro a b hsub i j hi hj
    exact .inr ⟨Nat.le_zero.mp hi.le, Nat.le_zero.mp hj.le, hsub⟩
  | append_singleton calls call ih =>
    have hold := ih.imp_of_mem fun {a b} ha hb hab i j
      (hi : StandsSince r group (calls ++ [call]) a i)
      (hj : StandsSince r group (calls ++ [call]) b j) => hab i j (hi.of_concat ha) (hj.of_concat hb)
    rcases namesAfter_cases h calls call with ⟨name, _, -, hnew, hnames⟩ | hsub
    · rw [hnames, List.pairwise_append]
      refine ⟨hold, List.pairwise_singleton _ _, fun a ha b hb i j hi hj => ?_⟩
      obtain rfl := List.mem_singleton.mp hb
      have hi' := (hi.of_concat ha).le
      have hj' := hj.of_not_mem hnew
      exact .inl (by omega)
    · exact hold.sublist hsub

end Order

/-- Only the names of actions that are there count in a call that leaves actions out. -/
theorem only_except_congr {r : Resource} {names names' : List String}
    (h : ∀ p ∈ r.member ++ r.collection, p.1 ∈ names ↔ p.1 ∈ names') :
    r.only names = r.only names' ∧ r.except names = r.except names' := by
  have hcontains : ∀ p ∈ r.member ++ r.collection, names.contains p.1 = names'.contains p.1 := by
    intro p hp
    rw [Bool.eq_iff_iff, List.contains_iff_mem, List.contains_iff_mem]
    exact h p hp
  rw [List.forall_mem_append] at hcontains
  have hnot : ∀ {actions : Actions}, (∀ p ∈ actions, names.contains p.1 = names'.contains p.1) →
      ∀ p ∈ actions, (!names.contains p.1) = !names'.contains p.1 :=
    fun hactions p hp => congrArg Bool.not (hactions p hp)
  constructor
  · rw [only, only, List.filter_congr hcontains.1, List.filter_congr hcontains.2]
  · rw [except, except, List.filter_congr (hnot hcontains.1), List.filter_congr (hnot hcontains.2)]

/-- Where there is only one of a kind, no call puts an action on one of many. -/
theorem member_describe {r : Resource} (hsingleton : r.isSingleton = true) (hmember : r.member = [])
    (calls : List BuilderCall) :
    (r.describe calls).isSingleton = true ∧ (r.describe calls).member = [] := by
  induction calls using List.reverseRecOn with
  | nil => exact ⟨hsingleton, hmember⟩
  | append_singleton calls call ih =>
    rw [describe_concat, isSingleton_apply]
    refine ⟨ih.1, ?_⟩
    cases call with
    | only | except => simp [BuilderCall.apply, only, except, ih.2]
    | withMember => rw [BuilderCall.apply, withMember, if_pos ih.1, ih.2]
    | withCollection => exact ih.2

theorem nodup_namesAfter_new (singular : String) (plural : Option String) (group : ActionGroup) :
    ((new singular plural).namesAfter [] group).Nodup := by
  cases plural <;> cases group <;> simp [namesAfter, describe, actions, new]

/-- The calls decide action by action which of them a resource has. Each group holds each name once, and
an action is there exactly as the last call for its name says, if no later one leaves it out; without a call
for it, a conventional action stays as it is under the same condition. The names stand in the order in which
they came to stay, those that are replaced in their old place. There are no actions on one of many where
there is only one, and names of no action make no difference. -/
theorem actions_describe (singular : String) (plural : Option String) (calls : List BuilderCall) :
    let r := new singular plural
    (∀ group, (r.namesAfter calls group).Nodup) ∧
    (plural = none → (r.describe calls).member = []) ∧
    (∀ group, r.Has group →
      (∀ name action, (name, action) ∈ (r.describe calls).actions group ↔
        Stands (r.actions group) group calls name action) ∧
      (∀ name ∈ r.namesAfter calls group, (∃! k, StandsSince r group calls name k) ∧
        ∀ k, StandsSince r group calls name (k + 1) → ∃ call method, calls[k]? = some call ∧
          call.inserts? group = some (name, method)) ∧
      ((r.namesAfter calls group).Pairwise fun a b =>
        ∀ i j, StandsSince r group calls a i → StandsSince r group calls b j →
          i < j ∨ i = 0 ∧ j = 0 ∧ [a, b].Sublist (r.namesAfter [] group)) ∧
      ∀ call name method, call.inserts? group = some (name, method) →
        name ∈ r.namesAfter calls group →
          r.namesAfter (calls ++ [call]) group = r.namesAfter calls group) ∧
    ∀ names names', (∀ group, ∀ name ∈ r.namesAfter calls group, name ∈ names ↔ name ∈ names') →
      (r.describe calls).only names = (r.describe calls).only names' ∧
        (r.describe calls).except names = (r.describe calls).except names' := by
  intro r
  have hempty : plural = none → (r.describe calls).member = [] := by
    rintro rfl
    exact (member_describe rfl rfl calls).2
  refine ⟨fun group => ?_, hempty, fun group hgroup => ⟨fun name action => ?_, fun name hname => ?_, ?_, ?_⟩,
    fun names names' hnames => only_except_congr ?_⟩
  · by_cases hgroup : r.Has group
    · exact nodup_namesAfter hgroup (nodup_namesAfter_new singular plural group) calls
    · -- the group that a resource of its kind does not have is empty
      obtain ⟨rfl, hsingleton⟩ := Classical.not_imp.mp hgroup
      have hplural : plural = none :=
        Option.isNone_iff_eq_none.mp ((Bool.not_eq_false _).mp hsingleton)
      rw [namesAfter, actions, hempty hplural]
      exact List.nodup_nil
  · exact mem_actions_describe hgroup
  · obtain ⟨k, hk, hcall⟩ := exists_standsSince hgroup hname
    exact ⟨⟨k, hk, fun _ hother => hother.unique hk⟩, fun j hj => hcall j (hj.unique hk)⟩
  · exact pairwise_namesAfter hgroup calls
  · exact fun call name method hinserts hmem => namesAfter_of_mem hgroup hinserts hmem
  · rw [List.forall_mem_append]
    exact ⟨fun p hp => hnames .member p.1 (List.mem_map_of_mem hp),
      fun p hp => hnames .collection p.1 (List.mem_map_of_mem hp)⟩

end Resource

end Routing
