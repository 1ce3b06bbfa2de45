import Mathlib.Data.List.Forall2
import Routing.Proofs.ChunkSearch

/-! The search in a table of chunks: it gives the first route that accepts the path, unless group
numbers hidden in the patterns stand in the way. -/
namespace Routing

/-- Positions grow along the list. -/
abbrev Ordered (members : List (Nat × Route)) : Prop :=
  members.Pairwise fun a b => a.1 < b.1

/-- The member is the first of all members to accept the path, with the given values. -/
structure FirstToAccept (members : List (Nat × Route)) (path : String) (member : Nat × Route)
    (values : List String) : Prop where
  mem : member ∈ members
  accepts : member.2.values? path = some values
  before : ∀ other ∈ members, other.1 < member.1 → other.2.values? path = none

/-- The position is one of the piece, and up to it no pattern takes group numbers of its own. -/
def Clear (piece : List (Nat × Route)) (position : Nat) : Prop :=
  position ∈ piece.map Prod.fst ∧ ∀ member ∈ piece, member.1 ≤ position → member.2.hidden = 0

instance (piece : List (Nat × Route)) (position : Nat) : Decidable (Clear piece position) :=
  inferInstanceAs (Decidable (_ ∧ _))

theorem exists_firstToAccept {members : List (Nat × Route)} (hordered : Ordered members)
    {path : String} (h : ∃ member ∈ members, member.2.values? path ≠ none) :
    ∃ member values, FirstToAccept members path member values := by
  have hsome : (members.find? fun member => (member.2.values? path).isSome).isSome := by
    rw [List.find?_isSome]
    obtain ⟨member, hm, hne⟩ := h
    exact ⟨member, hm, Option.isSome_iff_ne_none.mpr hne⟩
  obtain ⟨member, hfind⟩ := Option.isSome_iff_exists.mp hsome
  obtain ⟨haccepts, before, after, rfl, hbefore⟩ := List.find?_eq_some_iff_append.mp hfind
  obtain ⟨values, hvalues⟩ := Option.isSome_iff_exists.mp haccepts
  refine ⟨member, values, List.mem_append_right before List.mem_cons_self, hvalues, ?_⟩
  rw [Ordered, List.pairwise_append, List.pairwise_cons] at hordered
  obtain ⟨-, ⟨hafter, -⟩, -⟩ := hordered
  intro other ho hlt
  rcases List.mem_append.mp ho with ho | ho
  · simpa using hbefore other ho
  · rcases List.mem_cons.mp ho with rfl | ho
    · exact absurd hlt (Nat.lt_irrefl _)
    · exact absurd (hafter other ho) (Nat.lt_asymm hlt)

theorem FirstToAccept.of_subset {members fewer : List (Nat × Route)} {path : String}
    {member : Nat × Route} {values : List String}
    (h : FirstToAccept members path member values) (hsub : fewer ⊆ members)
    (hm : member ∈ fewer) : FirstToAccept fewer path member values :=
  ⟨hm, h.accepts, fun other ho => h.before other (hsub ho)⟩

namespace Chunk

section Split

variable {α : Type} {size : Nat}

theorem flatten_split (hsize : 0 < size) {fuel : Nat} {l : List α} (h : l.length ≤ fuel) :
    (split size fuel l).flatten = l := by
  induction fuel generalizing l with
  | zero => rw [List.eq_nil_of_length_eq_zero (Nat.le_zero.mp h)]; rfl
  | succ fuel ih =>
    rw [split]
    split_ifs with hempty
    · exact (List.isEmpty_iff.mp hempty).symm
    · have hpos : 0 < l.length := List.length_pos_iff.mpr (by simpa using hempty)
      rw [List.flatten_cons, ih (by rw [List.length_drop]; omega), List.take_append_drop]

theorem ne_nil_of_mem_split (hsize : 0 < size) {fuel : Nat} {l piece : List α}
    (h : piece ∈ split size fuel l) : piece ≠ [] := by
  induction fuel generalizing l with
  | zero => cases h
  | succ fuel ih =>
    rw [split] at h
    split_ifs at h with hempty
    · cases h
    · rcases List.mem_cons.mp h with rfl | h
      · rw [ne_eq, List.take_eq_nil_iff]
        rintro (hzero | hnil)
        · omega
        · exact hempty (List.isEmpty_iff.mpr hnil)
      · exact ih h

end Split

section Piece

variable {piece : List (Nat × Route)} {c : Chunk} {path : String} {member : Nat × Route}
  {values : List String}

theorem exists_split (hordered : Ordered piece) (hfirst : FirstToAccept piece path member values) :
    ∃ before after, piece = before ++ member :: after ∧
      (∀ other ∈ before, other.2.values? path = none) ∧
      (∀ other ∈ after, member.1 < other.1) ∧
      (Clear piece member.1 ↔ ∀ other ∈ before ++ [member], other.2.hidden = 0) := by
  obtain ⟨before, after, rfl⟩ := List.append_of_mem hfirst.mem
  have hpairs := hordered
  rw [Ordered, List.pairwise_append, List.pairwise_cons] at hpairs
  obtain ⟨-, ⟨hafter, -⟩, hbefore⟩ := hpairs
  have hlt : ∀ other ∈ before, other.1 < member.1 :=
    fun other ho => hbefore other ho member List.mem_cons_self
  refine ⟨before, after, rfl, ?_, hafter, ?_⟩
  · exact fun other ho => hfirst.before other (List.mem_append_left _ ho) (hlt other ho)
  · constructor
    · rintro ⟨-, hclear⟩ other ho
      rcases List.mem_append.mp ho with ho | ho
      · exact hclear other (List.mem_append_left _ ho) (hlt other ho).le
      · rw [List.mem_singleton.mp ho]
        exact hclear member hfirst.mem (Nat.le_refl _)
    · intro hclear
      refine ⟨List.mem_map_of_mem hfirst.mem, fun other ho hle => ?_⟩
      rw [List.append_cons] at ho
      rcases List.mem_append.mp ho with ho | ho
      · exact hclear other ho
      · exact absurd hle (Nat.not_le.mpr (hafter other ho))

theorem find?_of_clear (hordered : Ordered piece) (hsearch : ∀ other ∈ piece, other.2.Searchable)
    (h : compile piece = .ok c) (hfirst : FirstToAccept piece path member values)
    (hclear : Clear piece member.1) : c.find? path = some (member.1, values) := by
  obtain ⟨before, after, rfl, hbefore, -, hiff⟩ := exists_split hordered hfirst
  exact find?_first hsearch h hbefore hfirst.accepts (hiff.mp hclear)

theorem lt_of_not_clear (hordered : Ordered piece) (hsearch : ∀ other ∈ piece, other.2.Searchable)
    (h : compile piece = .ok c) (hfirst : FirstToAccept piece path member values)
    (hclear : ¬Clear piece member.1) {found : Nat × List String} (hfound : c.find? path = some found) :
    member.1 < found.1 := by
  obtain ⟨before, after, rfl, hbefore, hafter, hiff⟩ := exists_split hordered hfirst
  rw [hiff] at hclear
  push Not at hclear
  obtain ⟨other, ho, he⟩ := find?_later hsearch h hbefore hfirst.accepts hclear hfound
  rw [← he]
  exact hafter other ho

end Piece

end Chunk

namespace ChunkTable

section Pieces

variable {pieces : List (List (Nat × Route))} {table : ChunkTable} {path : String}
  {member : Nat × Route} {values : List String}

theorem find?_cons (c : Chunk) (table : ChunkTable) (path : String) :
    find? (c :: table) path = (c.find? path).or (find? table path) := by
  unfold find?
  rw [List.findSome?_cons]
  cases c.find? path <;> rfl

/-- What a table finds is one of the members of its chunks, with a value for each parameter. -/
theorem find?_mem (h : List.Forall₂ (fun piece c => Chunk.compile piece = .ok c) pieces table)
    {found : Nat × List String} (hfound : find? table path = some found) :
    ∃ member ∈ pieces.flatten, member.1 = found.1 ∧
      found.2.length = member.2.parameterCount := by
  induction h with
  | nil => cases hfound
  | cons hcompile _ ih =>
    rw [List.flatten_cons]
    rw [find?_cons, Option.or_eq_some_iff] at hfound
    rcases hfound with hfound | ⟨-, hfound⟩
    · obtain ⟨member, hm, he⟩ := Chunk.find?_mem hcompile hfound
      exact ⟨member, List.mem_append_left _ hm, he⟩
    · obtain ⟨member, hm, he⟩ := ih hfound
      exact ⟨member, List.mem_append_right _ hm, he⟩

/-- If none of the routes accepts the path, the table finds nothing. -/
theorem find?_none (h : List.Forall₂ (fun piece c => Chunk.compile piece = .ok c) pieces table)
    (hne : ∀ piece ∈ pieces, piece ≠ []) (hsearch : ∀ other ∈ pieces.flatten, other.2.Searchable)
    (hnone : ∀ other ∈ pieces.flatten, other.2.values? path = none) : find? table path = none := by
  induction h with
  | nil => rfl
  | cons hcompile _ ih =>
    rw [List.flatten_cons, List.forall_mem_append] at hsearch hnone
    rw [List.forall_mem_cons] at hne
    rw [find?_cons, Chunk.find?_none hne.1 hsearch.1 hcompile hnone.1, Option.none_or]
    exact ih hne.2 hsearch.2 hnone.2

/-- Where the first route that accepts the path stands: in the first piece or in the others, and then no
route of the first piece accepts the path. -/
theorem first_cases {piece : List (Nat × Route)} (hordered : Ordered (piece ++ pieces.flatten))
    (hfirst : FirstToAccept (piece ++ pieces.flatten) path member values) :
    FirstToAccept piece path member values ∧ (∀ other ∈ pieces.flatten, member.1 < other.1) ∨
      FirstToAccept pieces.flatten path member values ∧ (∀ other ∈ piece, other.1 < member.1) ∧
        ∀ other ∈ piece, other.2.values? path = none := by
  rw [Ordered, List.pairwise_append] at hordered
  obtain ⟨-, -, hlt⟩ := hordered
  rcases List.mem_append.mp hfirst.mem with hm | hm
  · exact .inl ⟨hfirst.of_subset (List.subset_append_left _ _) hm, hlt member hm⟩
  · refine .inr ⟨hfirst.of_subset (List.subset_append_right _ _) hm, fun other ho => hlt other ho member hm, ?_⟩
    exact fun other ho => hfirst.before other (List.mem_append_left _ ho) (hlt other ho member hm)

/-- The first route that accepts the path is found if its chunk is clear up to it. -/
theorem find?_of_clear (h : List.Forall₂ (fun piece c => Chunk.compile piece = .ok c) pieces table)
    (hne : ∀ piece ∈ pieces, piece ≠ []) (hsearch : ∀ other ∈ pieces.flatten, other.2.Searchable)
    (hordered : Ordered pieces.flatten) (hfirst : FirstToAccept pieces.flatten path member values)
    (hclear : ∃ piece ∈ pieces, Clear piece member.1) :
    find? table path = some (member.1, values) := by
  induction h with
  | nil => cases hfirst.mem
  | @cons piece c pieces table hcompile _ ih =>
    have hpairs := hordered
    rw [List.flatten_cons] at hsearch hordered hfirst hpairs
    rw [Ordered, List.pairwise_append] at hpairs
    rw [List.forall_mem_append] at hsearch
    rw [List.forall_mem_cons] at hne
    -- The piece that is clear holds the position, and so it is the one that `first_cases` tells.
    obtain ⟨holds, hin, hclear⟩ := hclear
    have hposition := hclear.1
    obtain ⟨other, ho, he⟩ := List.mem_map.mp hposition
    rw [find?_cons]
    rcases first_cases hordered hfirst with ⟨hfirst, hafter⟩ | ⟨hfirst, hbefore, hnone⟩
    · rcases List.mem_cons.mp hin with rfl | hin
      · rw [Chunk.find?_of_clear hpairs.1 hsearch.1 hcompile hfirst hclear]
        rfl
      · have hlt := hafter other (List.mem_flatten_of_mem hin ho)
        omega
    · rcases List.mem_cons.mp hin with rfl | hin
      · have hlt := hbefore other ho
        omega
      · rw [Chunk.find?_none hne.1 hsearch.1 hcompile hnone, Option.none_or]
        exact ih hne.2 hsearch.2 hpairs.2.1 hfirst ⟨holds, hin, hclear⟩

/-- Otherwise only a later route can be found. -/
theorem lt_of_not_clear (h : List.Forall₂ (fun piece c => Chunk.compile piece = .ok c) pieces table)
    (hne : ∀ piece ∈ pieces, piece ≠ []) (hsearch : ∀ other ∈ pieces.flatten, other.2.Searchable)
    (hordered : Ordered pieces.flatten) (hfirst : FirstToAccept pieces.flatten path member values)
    (hclear : ∀ piece ∈ pieces, ¬Clear piece member.1) {found : Nat × List String}
    (hfound : find? table path = some found) : member.1 < found.1 := by
  induction h with
  | nil => cases hfound
  | @cons piece c pieces table hcompile hrest ih =>
    have hpairs := hordered
    rw [List.flatten_cons] at hsearch hordered hfirst hpairs
    rw [Ordered, List.pairwise_append] at hpairs
    rw [List.forall_mem_append] at hsearch
    rw [List.forall_mem_cons] at hne hclear
    rw [find?_cons, Option.or_eq_some_iff] at hfound
    rcases first_cases hordered hfirst with ⟨hfirst, hafter⟩ | ⟨hfirst, -, hnone⟩
    · rcases hfound with hfound | ⟨-, hfound⟩
      · exact Chunk.lt_of_not_clear hpairs.1 hsearch.1 hcompile hfirst hclear.1 hfound
      · obtain ⟨other, ho, he, -⟩ := find?_mem hrest hfound
        rw [← he]
        exact hafter other ho
    · rw [Chunk.find?_none hne.1 hsearch.1 hcompile hnone] at hfound
      rcases hfound with hfound | ⟨-, hfound⟩
      · cases hfound
      · exact ih hne.2 hsearch.2 hpairs.2.1 hfirst hclear.2 hfound

end Pieces

end ChunkTable
end Routing
