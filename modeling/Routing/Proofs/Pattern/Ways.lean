import Mathlib.Data.List.Basic
import Mathlib.Tactic.SplitIfs
import Routing.Pattern

/-! All ways to match an expression, in the order of preference, and the agreement of the matcher
with them: its answer is that of the first way after which the rest has one. -/
namespace Routing.Pattern

namespace Cursor

theorem mem_ahead_self (c : Cursor) : c ∈ c.ahead := by
  unfold ahead
  cases hr : c.rest with
  | nil => simp [ahead.go, ← hr]
  | cons x rest => simp [ahead.go, ← hr]

theorem mem_ahead_advance {c : Cursor} {x : Char} {rest : List Char} (h : c.rest = x :: rest) :
    c.advance x rest ∈ c.ahead := by
  unfold ahead
  rw [h, ahead.go]
  exact List.mem_cons_of_mem _ (mem_ahead_self (c.advance x rest))

theorem mem_go_trans {pos : Nat} {before : Option Char} {rest : List Char} {d e : Cursor}
    (hd : d ∈ ahead.go pos before rest) (he : e ∈ d.ahead) : e ∈ ahead.go pos before rest := by
  induction rest generalizing pos before with
  | nil =>
    rw [ahead.go, List.mem_singleton] at hd
    subst hd
    exact he
  | cons x rest ih =>
    rw [ahead.go, List.mem_cons] at hd
    rcases hd with rfl | hd
    · exact he
    · exact List.mem_cons_of_mem _ (ih hd)

theorem mem_ahead_trans {c d e : Cursor} (hd : d ∈ c.ahead) (he : e ∈ d.ahead) : e ∈ c.ahead :=
  mem_go_trans hd he

theorem mem_go_rest {pos : Nat} {before : Option Char} {rest : List Char} {d : Cursor}
    (hd : d ∈ ahead.go pos before rest) :
    ∃ text, rest = text ++ d.rest ∧ d.pos = pos + text.length := by
  induction rest generalizing pos before with
  | nil =>
    rw [ahead.go, List.mem_singleton] at hd
    exact ⟨[], by rw [hd]; rfl, by rw [hd]; rfl⟩
  | cons x rest ih =>
    rw [ahead.go, List.mem_cons] at hd
    rcases hd with rfl | hd
    · exact ⟨[], rfl, rfl⟩
    · obtain ⟨text, hrest, hpos⟩ := ih hd
      exact ⟨x :: text, by rw [hrest]; rfl, by rw [hpos, List.length_cons]; omega⟩

/-- The text to a position ahead is what stands before the rest there. -/
theorem rest_eq_textTo {c d : Cursor} (h : d ∈ c.ahead) : c.rest = c.textTo d ++ d.rest := by
  obtain ⟨text, hrest, hpos⟩ := mem_go_rest h
  unfold textTo
  rw [hpos, hrest, Nat.add_sub_cancel_left, List.take_left]

theorem length_rest_of_mem_ahead {c d : Cursor} (h : d ∈ c.ahead) :
    d.pos + d.rest.length = c.pos + c.rest.length := by
  obtain ⟨text, hrest, hpos⟩ := mem_go_rest h
  rw [hpos, hrest, List.length_append]
  omega

end Cursor

/-- A way to match: what groups matched, and where the match ends. -/
abbrev Way := Captures × Cursor

namespace Way

/-- Every way of the first list, continued in every way that `next` gives from its end. -/
def andThen (ways : List Way) (next : Cursor → List Way) : List Way :=
  ways.flatMap fun (captures, d) => (next d).map fun (more, e) => (captures ++ more, e)

/-- The answer after the first way that the rest has an answer after. -/
def answer (ways : List Way) (k : Continuation Captures) : Option Captures :=
  ways.findSome? fun (captures, d) => (k d).map (captures ++ ·)

def prefer (first : Bool) (a b : List Way) : List Way :=
  if first then a ++ b else b ++ a

@[simp] theorem answer_nil (k : Continuation Captures) : answer [] k = none := rfl

theorem answer_cons (captures : Captures) (d : Cursor) (ways : List Way)
    (k : Continuation Captures) :
    answer ((captures, d) :: ways) k = ((k d).map (captures ++ ·)).or (answer ways k) := by
  unfold answer
  rw [List.findSome?_cons]
  dsimp only
  cases k d <;> simp

theorem answer_append (a b : List Way) (k : Continuation Captures) :
    answer (a ++ b) k = (answer a k).or (answer b k) :=
  List.findSome?_append

@[simp] theorem answer_singleton (c : Cursor) (k : Continuation Captures) :
    answer [([], c)] k = k c := by
  cases h : k c <;> simp [answer_cons, h]

theorem answer_map (captures : Captures) (ways : List Way) (k : Continuation Captures) :
    answer (ways.map fun (more, e) => (captures ++ more, e)) k =
      (answer ways k).map (captures ++ ·) := by
  induction ways with
  | nil => rfl
  | cons way ways ih =>
    obtain ⟨more, e⟩ := way
    rw [List.map_cons, answer_cons, answer_cons, ih]
    cases k e <;> simp

theorem answer_andThen (ways : List Way) (next : Cursor → List Way) (k : Continuation Captures) :
    answer (andThen ways next) k = answer ways fun d => answer (next d) k := by
  induction ways with
  | nil => rfl
  | cons way ways ih =>
    obtain ⟨captures, d⟩ := way
    rw [answer_cons, ← ih, ← answer_map]
    exact answer_append _ _ k

theorem answer_prefer (first : Bool) (a b : List Way) (k : Continuation Captures) :
    answer (prefer first a b) k = Matcher.choose first (fun _ => answer a k) fun _ => answer b k := by
  cases first
  · simp only [prefer, Matcher.choose, Bool.false_eq_true, if_false, answer_append]
    cases answer b k <;> rfl
  · simp only [prefer, Matcher.choose, if_true, answer_append]
    cases answer a k <;> rfl

theorem answer_congr {ways : List Way} {k k' : Continuation Captures}
    (h : ∀ way ∈ ways, k way.2 = k' way.2) : answer ways k = answer ways k' := by
  induction ways with
  | nil => rfl
  | cons way ways ih =>
    rw [answer_cons, answer_cons, h way List.mem_cons_self,
      ih fun other hother => h other (List.mem_cons_of_mem way hother)]

theorem mem_andThen {ways : List Way} {next : Cursor → List Way} {captures : Captures}
    {e : Cursor} :
    (captures, e) ∈ andThen ways next ↔
      ∃ l d l', (l, d) ∈ ways ∧ (l', e) ∈ next d ∧ captures = l ++ l' := by
  simp only [andThen, List.mem_flatMap, List.mem_map, Prod.exists, Prod.mk.injEq]
  constructor
  · rintro ⟨l, d, hl, l', e', hl', rfl, rfl⟩
    exact ⟨l, d, l', hl, hl', rfl⟩
  · rintro ⟨l, d, l', hl, hl', rfl⟩
    exact ⟨l, d, hl, l', e, hl', rfl, rfl⟩

theorem mem_prefer {first : Bool} {a b : List Way} {way : Way} :
    way ∈ prefer first a b ↔ way ∈ a ∨ way ∈ b := by
  cases first <;> simp [prefer, or_comm]

def rounds (round : Cursor → List Way) : Nat → (Cursor → List Way) → Cursor → List Way
  | 0, next, c => next c
  | n + 1, next, c => andThen (round c) (rounds round n next)

def atMost (round : Cursor → List Way) (greedy : Bool) : Nat → Cursor → List Way
  | 0, c => [([], c)]
  | n + 1, c => prefer greedy (andThen (round c) (atMost round greedy n)) [([], c)]

/-- Any number of rounds; one that consumes nothing is the last. The fuel bounds the number of those
that consume. -/
def many (round : Cursor → List Way) (greedy : Bool) : Nat → Cursor → List Way
  | 0, c => [([], c)]
  | fuel + 1, c =>
    let more (d : Cursor) := if d.pos ≤ c.pos then [([], d)] else many round greedy fuel d
    prefer greedy (andThen (round c) more) [([], c)]

end Way

open Way

/-- The ways to match the expression, whose first group has the number `first`. -/
def Expr.ways : Expr → Nat → Cursor → List Way
  | empty, _, c => [([], c)]
  | chars set, _, c =>
    match c.rest with
    | [] => []
    | x :: rest => if set.mem x then [([], c.advance x rest)] else []
  | look condition, _, c => if condition.holds c then [([], c)] else []
  | seq a b, first, c => andThen (a.ways first c) (b.ways (first + a.slots))
  | alt a b, first, c => a.ways first c ++ b.ways (first + a.slots) c
  | rep lo hi greedy e, first, c =>
    match e.set? with
    | some set =>
      let ends := (Matcher.reach set hi c []).filter (c.pos + lo ≤ ·.pos)
      (if greedy then ends else ends.reverse).map ([], ·)
    | none =>
      let more (d : Cursor) := match hi with
        | none => many (e.ways first) greedy (d.rest.length + 1) d
        | some hi => atMost (e.ways first) greedy (hi - lo) d
      rounds (e.ways first) lo more c
  | group e, first, c =>
    (e.ways (first + 1) c).map fun (captures, d) => (captures ++ [(first, c.textTo d)], d)

/-- A property of ways that holds of staying in place, and of two ways one after the other if it holds
of both. -/
structure Composable (Q : Cursor → Way → Prop) : Prop where
  stay : ∀ c, Q c ([], c)
  compose : ∀ {c d e : Cursor} {l l' : Captures}, Q c (l, d) → Q d (l', e) → Q c (l ++ l', e)

/-- The property holds of all ways. -/
def Always (Q : Cursor → Way → Prop) (round : Cursor → List Way) : Prop :=
  ∀ c, ∀ way ∈ round c, Q c way

/-- All ways end at their beginning or after it. -/
abbrev EndAhead : (Cursor → List Way) → Prop := Always fun c way => way.2 ∈ c.ahead

theorem composable_endAhead : Composable fun c way => way.2 ∈ c.ahead :=
  ⟨Cursor.mem_ahead_self, Cursor.mem_ahead_trans⟩

namespace Way

variable {Q : Cursor → Way → Prop} {round next : Cursor → List Way}

theorem always_stay (hQ : Composable Q) : Always Q fun c => [([], c)] := by
  intro c way hway
  rw [List.mem_singleton.mp hway]
  exact hQ.stay c

theorem always_andThen (hQ : Composable Q) (hround : Always Q round) (hnext : Always Q next) :
    Always Q fun c => andThen (round c) next := by
  rintro c ⟨captures, e⟩ h
  obtain ⟨l, d, l', hl, hl', rfl⟩ := mem_andThen.mp h
  exact hQ.compose (hround c _ hl) (hnext d _ hl')

theorem always_prefer (first : Bool) (hround : Always Q round) (hnext : Always Q next) :
    Always Q fun c => prefer first (round c) (next c) := by
  intro c way hway
  rcases mem_prefer.mp hway with hway | hway
  · exact hround c way hway
  · exact hnext c way hway

theorem always_rounds (hQ : Composable Q) (hround : Always Q round) (hnext : Always Q next)
    (n : Nat) : Always Q (rounds round n next) := by
  induction n with
  | zero => exact hnext
  | succ n ih => exact always_andThen hQ hround ih

theorem always_atMost (hQ : Composable Q) (hround : Always Q round) (greedy : Bool) (n : Nat) :
    Always Q (atMost round greedy n) := by
  induction n with
  | zero => exact always_stay hQ
  | succ n ih => exact always_prefer greedy (always_andThen hQ hround ih) (always_stay hQ)

theorem always_many (hQ : Composable Q) (hround : Always Q round) (greedy : Bool) (fuel : Nat) :
    Always Q (many round greedy fuel) := by
  induction fuel with
  | zero => exact always_stay hQ
  | succ fuel ih =>
    intro c
    have hmore : Always Q fun d => if d.pos ≤ c.pos then [([], d)] else many round greedy fuel d := by
      intro d way hway
      dsimp only at hway
      split_ifs at hway
      · exact always_stay hQ d way hway
      · exact ih d way hway
    exact always_prefer greedy (always_andThen hQ hround hmore) (always_stay hQ) c

theorem andThen_congr {ways : List Way} {next next' : Cursor → List Way}
    (h : ∀ way ∈ ways, next way.2 = next' way.2) : andThen ways next = andThen ways next' := by
  refine List.flatMap_congr fun way hway => ?_
  obtain ⟨captures, d⟩ := way
  exact congrArg _ (h (captures, d) hway)

/-- Fuel for every character that is left is enough. -/
theorem many_fuel (hround : EndAhead round) (greedy : Bool) {fuel fuel' : Nat} {c : Cursor}
    (h : c.rest.length < fuel) (h' : c.rest.length < fuel') :
    many round greedy fuel c = many round greedy fuel' c := by
  induction fuel generalizing c fuel' with
  | zero => omega
  | succ fuel ih =>
    cases fuel' with
    | zero => omega
    | succ fuel' =>
      simp only [many]
      congr 1
      refine andThen_congr fun way hway => ?_
      have hlen := Cursor.length_rest_of_mem_ahead (hround c way hway)
      split_ifs with hpos
      · rfl
      · exact ih (by omega) (by omega)

end Way

namespace Matcher

variable {m : Matcher Captures} {round : Cursor → List Way}

theorem get_rounds (hm : ∀ c k, m c k = answer (round c) k) (hround : EndAhead round)
    {cursor : Cursor} {k : Answers Captures} {next : Cursor → List Way}
    {final : Continuation Captures} (hk : ∀ d ∈ cursor.ahead, k.get d = answer (next d) final)
    (n : Nat) {c : Cursor} (hc : c ∈ cursor.ahead) :
    (rounds m cursor n k).get c = answer (Way.rounds round n next c) final := by
  induction n generalizing c with
  | zero => exact hk c hc
  | succ n ih =>
    rw [rounds, Answers.get_ofContinuation _ hc, hm, Way.rounds, answer_andThen]
    exact answer_congr fun way hway => ih (Cursor.mem_ahead_trans hc (hround c way hway))

theorem get_atMost (hm : ∀ c k, m c k = answer (round c) k) (hround : EndAhead round)
    (greedy : Bool) {cursor : Cursor} (k : Continuation Captures) (n : Nat) {c : Cursor}
    (hc : c ∈ cursor.ahead) :
    (atMost m greedy cursor n (.ofContinuation cursor k)).get c =
      answer (Way.atMost round greedy n c) k := by
  induction n generalizing c with
  | zero => rw [atMost, Answers.get_ofContinuation _ hc, Way.atMost, answer_singleton]
  | succ n ih =>
    rw [atMost, Answers.get_ofContinuation _ hc, Answers.get_ofContinuation _ hc, hm, Way.atMost,
      answer_prefer, answer_andThen, answer_singleton]
    congr 1
    funext _
    exact answer_congr fun way hway => ih (Cursor.mem_ahead_trans hc (hround c way hway))

theorem get_answerAt (hm : ∀ c k, m c k = answer (round c) k) (hround : EndAhead round)
    (greedy : Bool) (k : Continuation Captures) {pos : Nat} {before : Option Char}
    {rest : List Char} {later : List (Thunk (Option Captures))}
    (hlater : ∀ d ∈ Cursor.ahead ⟨pos, before, rest⟩, pos < d.pos →
      ∃ t, later[d.pos - pos - 1]? = some t ∧
        t.get = answer (Way.many round greedy (d.rest.length + 1) d) k) :
    (manyFrom.answerAt m greedy k pos before rest later).get =
      answer (Way.many round greedy (rest.length + 1) ⟨pos, before, rest⟩) k := by
  simp only [manyFrom.answerAt, Thunk.get, Way.many]
  rw [answer_prefer, hm, answer_andThen, answer_singleton]
  congr 1
  funext _
  refine answer_congr fun way hway => ?_
  have hahead := hround _ way hway
  have hlen := Cursor.length_rest_of_mem_ahead hahead
  split_ifs with hpos
  · rw [answer_singleton]
  · obtain ⟨t, ht, hget⟩ := hlater _ hahead (by omega)
    dsimp only at hlen
    rw [ht, Way.many_fuel hround greedy (by omega) (Nat.lt_succ_self way.2.rest.length)]
    exact hget

theorem get_manyFrom (hm : ∀ c k, m c k = answer (round c) k) (hround : EndAhead round)
    (greedy : Bool) (k : Continuation Captures) {pos : Nat} {before : Option Char}
    {rest : List Char} {d : Cursor} (hd : d ∈ Cursor.ahead ⟨pos, before, rest⟩) :
    ∃ t, (manyFrom m greedy k pos before rest)[d.pos - pos]? = some t ∧
      t.get = answer (Way.many round greedy (d.rest.length + 1) d) k := by
  induction rest generalizing pos before d with
  | nil =>
    have he : d = ⟨pos, before, []⟩ := List.mem_singleton.mp hd
    subst he
    refine ⟨_, by rw [manyFrom, Nat.sub_self]; rfl, get_answerAt hm hround greedy k ?_⟩
    intro d hd hlt
    rw [List.mem_singleton.mp hd] at hlt
    exact absurd hlt (Nat.lt_irrefl pos)
  | cons x rest ih =>
    have htail : ∀ d ∈ Cursor.ahead ⟨pos, before, x :: rest⟩, pos < d.pos →
        ∃ t, (manyFrom m greedy k (pos + 1) (some x) rest)[d.pos - pos - 1]? = some t ∧
          t.get = answer (Way.many round greedy (d.rest.length + 1) d) k := by
      intro d hd hlt
      rcases List.mem_cons.mp hd with rfl | hd
      · exact absurd hlt (Nat.lt_irrefl pos)
      · rw [Nat.sub_sub]
        exact ih hd
    rcases List.mem_cons.mp hd with rfl | hin
    · exact ⟨_, by rw [manyFrom, Nat.sub_self]; rfl, get_answerAt hm hround greedy k htail⟩
    · have hlt : pos + 1 ≤ d.pos := (Cursor.getElem?_go hin).1
      obtain ⟨t, ht, hget⟩ := htail d hd (by omega)
      refine ⟨t, ?_, hget⟩
      rw [manyFrom, show d.pos - pos = d.pos - pos - 1 + 1 by omega, List.getElem?_cons_succ]
      exact ht

theorem get_many (hm : ∀ c k, m c k = answer (round c) k) (hround : EndAhead round)
    (greedy : Bool) {cursor : Cursor} (k : Continuation Captures) {d : Cursor}
    (hd : d ∈ cursor.ahead) :
    (many m greedy cursor k).get d = answer (Way.many round greedy (d.rest.length + 1) d) k := by
  obtain ⟨t, ht, hget⟩ := get_manyFrom hm hround greedy k hd
  have hle := (Cursor.getElem?_ahead hd).1
  simp only [many, Answers.get, Nat.not_lt.mpr hle, if_false, List.getElem?_toArray, ht]
  exact hget

theorem mem_reach_go_iff {set : CharSet} {pos : Nat} {before : Option Char} {rest : List Char}
    {bound : Option Nat} {found : List Cursor} {d : Cursor} :
    d ∈ reach.go set pos before rest bound found ↔
      d ∈ found ∨ d ∈ Cursor.ahead.go pos before rest ∧
        (∀ x ∈ rest.take (d.pos - pos), set.mem x = true) ∧ ∀ n, bound = some n → d.pos ≤ pos + n := by
  induction rest generalizing pos before bound found with
  | nil =>
    rw [reach.go, Cursor.ahead.go, List.mem_cons, List.mem_singleton]
    constructor
    · rintro (rfl | h)
      · exact .inr ⟨rfl, by simp, fun n _ => Nat.le_add_right pos n⟩
      · exact .inl h
    · rintro (h | ⟨rfl, -, -⟩)
      · exact .inr h
      · exact .inl rfl
  | cons x rest ih =>
    have hlater : ∀ {d : Cursor}, d ∈ Cursor.ahead.go (pos + 1) (some x) rest →
        (x :: rest).take (d.pos - pos) = x :: rest.take (d.pos - (pos + 1)) ∧ pos < d.pos := by
      intro d hd
      have hle := (Cursor.getElem?_go hd).1
      rw [show d.pos - pos = d.pos - (pos + 1) + 1 by omega, List.take_succ_cons]
      exact ⟨rfl, by omega⟩
    simp only [reach.go, Cursor.ahead.go, List.mem_cons]
    split_ifs with hstop
    · rw [List.mem_cons]
      constructor
      · rintro (rfl | h)
        · exact .inr ⟨.inl rfl, by simp, fun n _ => Nat.le_add_right pos n⟩
        · exact .inl h
      · rintro (h | ⟨rfl | hd, hall, hbound⟩)
        · exact .inr h
        · exact .inl rfl
        · -- The run has stopped before the position.
          obtain ⟨htake, hlt⟩ := hlater hd
          have hmem := hall x (by rw [htake]; exact List.mem_cons_self)
          simp only [hmem, Bool.not_true, Bool.or_false, decide_eq_true_eq] at hstop
          have hle := hbound 0 hstop
          omega
    · obtain ⟨hne, hx⟩ : bound ≠ some 0 ∧ set.mem x = true := by simpa using hstop
      rw [ih, List.mem_cons]
      constructor
      · rintro ((rfl | h) | ⟨hd, hall, hbound⟩)
        · exact .inr ⟨.inl rfl, by simp, fun n _ => Nat.le_add_right pos n⟩
        · exact .inl h
        · obtain ⟨htake, hlt⟩ := hlater hd
          refine .inr ⟨.inr hd, by simpa [htake, hx] using hall, fun n hn => ?_⟩
          have hle := hbound (n - 1) (by rw [hn]; rfl)
          have hpos : n ≠ 0 := fun hzero => hne (hzero ▸ hn)
          omega
      · rintro (h | ⟨rfl | hd, hall, hbound⟩)
        · exact .inl (.inr h)
        · exact .inl (.inl rfl)
        · obtain ⟨htake, hlt⟩ := hlater hd
          rw [htake, List.forall_mem_cons] at hall
          refine .inr ⟨hd, hall.2, fun n hn => ?_⟩
          obtain ⟨k, hk, rfl⟩ := Option.map_eq_some_iff.mp hn
          have hle := hbound k hk
          omega

/-- A run of characters leads to the positions before which all characters belong to the set. -/
theorem mem_reach_iff {set : CharSet} {bound : Option Nat} {c d : Cursor} :
    d ∈ reach set bound c [] ↔
      d ∈ c.ahead ∧ (∀ x ∈ c.textTo d, set.mem x = true) ∧ ∀ n, bound = some n → d.pos ≤ c.pos + n := by
  unfold reach
  rw [mem_reach_go_iff]
  simp [Cursor.ahead, Cursor.textTo]

end Matcher

namespace Expr

/-- What holds of every step holds of all ways. The groups that a property is told of are those of the
expression. -/
theorem always_ways {Q : Cursor → Way → Prop} (hQ : Composable Q)
    (hskip : ∀ c, ∀ d ∈ c.ahead, Q c ([], d)) (e : Expr) (first : Nat)
    (hgroup : ∀ n, first ≤ n → n < first + e.slots → ∀ c l d, Q c (l, d) →
      Q c (l ++ [(n, c.textTo d)], d)) : Always Q (e.ways first) := by
  induction e generalizing first with
  | empty => exact always_stay hQ
  | chars set =>
    intro c way hway
    simp only [ways] at hway
    split at hway
    · cases hway
    · next x rest hrest =>
      split_ifs at hway
      · rw [List.mem_singleton.mp hway]
        exact hskip c _ (Cursor.mem_ahead_advance hrest)
      · cases hway
  | look condition =>
    intro c way hway
    simp only [ways] at hway
    split_ifs at hway
    · exact always_stay hQ c way hway
    · cases hway
  | seq a b iha ihb =>
    simp only [slots] at hgroup
    exact always_andThen hQ (iha first fun n h h' => hgroup n h (by omega))
      (ihb (first + a.slots) fun n h h' => hgroup n (by omega) (by omega))
  | alt a b iha ihb =>
    simp only [slots] at hgroup
    exact always_prefer true (iha first fun n h h' => hgroup n h (by omega))
      (ihb (first + a.slots) fun n h h' => hgroup n (by omega) (by omega))
  | rep lo hi greedy e ih =>
    have hround := ih first hgroup
    intro c way hway
    simp only [ways] at hway
    split at hway
    · next set _ =>
      obtain ⟨d, hd, rfl⟩ := List.mem_map.mp hway
      have hreach : d ∈ (Matcher.reach set hi c []).filter (c.pos + lo ≤ ·.pos) := by
        split_ifs at hd
        · exact hd
        · exact List.mem_reverse.mp hd
      exact hskip c d (Matcher.mem_reach_iff.mp (List.mem_filter.mp hreach).1).1
    · refine always_rounds hQ hround (fun d other hother => ?_) lo c way hway
      cases hi with
      | none => exact always_many hQ hround greedy _ d other hother
      | some hi => exact always_atMost hQ hround greedy _ d other hother
  | group e ih =>
    simp only [slots] at hgroup
    intro c way hway
    obtain ⟨⟨l, d⟩, hl, rfl⟩ := List.mem_map.mp hway
    exact hgroup first (Nat.le_refl _) (by omega) c l d
      (ih (first + 1) (fun n h h' => hgroup n (by omega) (by omega)) c (l, d) hl)

theorem endAhead_ways (e : Expr) (first : Nat) : EndAhead (e.ways first) :=
  always_ways composable_endAhead (fun _ _ hd => hd) e first fun _ _ _ _ _ _ h => h

/-- The groups that take part in a way are among those of the expression. -/
theorem captured_range (e : Expr) (first : Nat) :
    Always (fun _ way => ∀ p ∈ way.1, first ≤ p.1 ∧ p.1 < first + e.slots) (e.ways first) := by
  refine always_ways ⟨?_, ?_⟩ ?_ e first ?_
  · simp
  · exact fun h h' p hp => (List.mem_append.mp hp).elim (h p) (h' p)
  · simp
  · intro n hlo hhi c l d h p hp
    rcases List.mem_append.mp hp with hp | hp
    · exact h p hp
    · rw [List.mem_singleton.mp hp]
      exact ⟨hlo, hhi⟩

theorem answer_map_group (first : Nat) (c : Cursor) (ways : List Way) (k : Continuation Captures) :
    answer (ways.map fun (captures, d) => (captures ++ [(first, c.textTo d)], d)) k =
      answer ways fun d => (k d).map ((first, c.textTo d) :: ·) := by
  induction ways with
  | nil => rfl
  | cons way ways ih =>
    obtain ⟨l, d⟩ := way
    rw [List.map_cons, answer_cons, answer_cons, ih]
    cases k d <;> simp

theorem answer_map_ends (ends : List Cursor) (k : Continuation Captures) :
    answer (ends.map ([], ·)) k = ends.findSome? k := by
  induction ends with
  | nil => rfl
  | cons d ends ih =>
    rw [List.map_cons, answer_cons, ih, List.findSome?_cons]
    cases k d <;> rfl

/-- The matcher gives the answer of the first way after which the rest has one. -/
theorem run_eq_answer (e : Expr) (first : Nat) (c : Cursor) (k : Continuation Captures) :
    e.run first c k = answer (e.ways first c) k := by
  induction e generalizing first c k with
  | empty => rw [run, ways, answer_singleton]
  | chars set =>
    simp only [run, ways]
    cases hr : c.rest with
    | nil => rfl
    | cons x rest =>
      dsimp only
      split_ifs
      · rw [answer_singleton]
      · rfl
  | look condition =>
    simp only [run, ways]
    split_ifs
    · rw [answer_singleton]
    · rfl
  | seq a b iha ihb =>
    rw [run, ways, answer_andThen, iha]
    exact answer_congr fun way _ => ihb _ _ _
  | alt a b iha ihb =>
    rw [run, ways, iha, ihb]
    exact (answer_prefer true _ _ k).symm
  | rep lo hi greedy e ih =>
    simp only [run, ways]
    cases hs : e.set? with
    | some set => exact (answer_map_ends _ k).symm
    | none =>
      -- Answers are remembered for the positions from `c` on, and no round leads before it.
      refine Matcher.get_rounds (ih first) (e.endAhead_ways first) (fun d hd => ?_) lo
        c.mem_ahead_self
      cases hi with
      | none => exact Matcher.get_many (ih first) (e.endAhead_ways first) greedy k hd
      | some hi => exact Matcher.get_atMost (ih first) (e.endAhead_ways first) greedy k _ hd
  | group e ih => rw [run, ways, ih, answer_map_group]

end Expr
end Routing.Pattern
