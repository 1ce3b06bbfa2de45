import Mathlib.Data.List.Induction
import Mathlib.Data.Nat.Notation
import Mathlib.Tactic.SplitIfs
import Routing.Proofs.TableCalls
import Routing.Proofs.TextPieces
import Routing.Router.Matcher

/-! Settings that the environment overrides: which texts are sizes, and that each variable changes the
field of its own and no other one. -/
namespace Routing

/-- The character is the digit of the value in the given base, in either case if it is a letter. -/
def IsDigit (base : Nat) (c : Char) (value : Nat) : Prop :=
  value < base ∧ c.toLower = Nat.digitChar value

/-- One or more digits, and the number that they denote. -/
inductive Numeral (base : Nat) : List Char → Nat → Prop
  | digit {c : Char} {value : Nat} (h : IsDigit base c value) : Numeral base [c] value
  | more {digits : List Char} {n : Nat} {c : Char} {value : Nat} (hdigits : Numeral base digits n)
    (h : IsDigit base c value) : Numeral base (digits ++ [c]) (n * base + value)

/-- A numeral, with or without a plus sign before it. -/
inductive Unsigned (base : Nat) : List Char → Nat → Prop
  | bare {digits : List Char} {n : Nat} (h : Numeral base digits n) : Unsigned base digits n
  | plus {digits : List Char} {n : Nat} (h : Numeral base digits n) : Unsigned base ('+' :: digits) n

section Digits

variable {base : Nat} {c : Char} {n value : Nat} {digits text : List Char}

/-- A digit has the same value in every base that is large enough for it. -/
theorem digitValue?_narrow {wide : Nat} (h : base ≤ wide) :
    digitValue? base c = some value ↔ value < base ∧ digitValue? wide c = some value := by
  have hcut (v : Nat) : (if v < base then some v else none) = some value ↔
      value < base ∧ (if v < wide then some v else none) = some value := by
    simp only [Option.ite_none_right_eq_some, Option.some.injEq]
    omega
  have hnone : (if base < base then some base else none) = some value ↔
      value < base ∧ (if wide < wide then some wide else none) = some value := by simp
  unfold digitValue?
  by_cases hdigit : '0' ≤ c ∧ c ≤ '9'
  · simpa only [if_pos hdigit] using hcut _
  by_cases hlower : 'a' ≤ c ∧ c ≤ 'z'
  · simpa only [if_neg hdigit, if_pos hlower] using hcut _
  by_cases hupper : 'A' ≤ c ∧ c ≤ 'Z'
  · simpa only [if_neg hdigit, if_neg hlower, if_pos hupper] using hcut _
  · simpa only [if_neg hdigit, if_neg hlower, if_neg hupper] using hnone

theorem toNat_lt_of_toLower (h : c.toLower.toNat < 128) : c.toNat < 128 := by
  unfold Char.toLower at h
  split_ifs at h with hupper
  · have hle : c.toNat ≤ 90 := UInt32.le_iff_toNat_le.mp hupper.2
    omega
  · exact h

theorem toNat_lt_of_digitValue? (h : digitValue? base c = some value) : c.toNat < 128 := by
  unfold digitValue? at h
  dsimp only at h
  have hle {d : Char} (hd : d.toNat < 128) (h : c ≤ d) : c.toNat < 128 :=
    Nat.lt_of_le_of_lt (UInt32.le_iff_toNat_le.mp h) hd
  split_ifs at h with hdigit _ hlower _ hupper
  · exact hle (by decide) hdigit.2
  · exact hle (by decide) hlower.2
  · exact hle (by decide) hupper.2
  · omega

theorem digitValue?_eq_some (hbase : base ≤ 16) :
    digitValue? base c = some value ↔ IsDigit base c value := by
  have hascii : ∀ n : Fin 128, ∀ v : Fin 16,
      digitValue? 16 (Char.ofNat n) = some v.val ↔ (Char.ofNat n).toLower = Nat.digitChar v := by
    decide +kernel
  rw [digitValue?_narrow hbase]
  refine and_congr_right fun hlt => ?_
  have hvalue : value < 16 := by omega
  by_cases hc : c.toNat < 128
  · have hhere := hascii ⟨c.toNat, hc⟩ ⟨value, hvalue⟩
    rwa [Char.ofNat_toNat] at hhere
  · have hdigit : ∀ v : Fin 16, (Nat.digitChar v).toNat < 128 := by decide
    refine iff_of_false (fun h => hc (toNat_lt_of_digitValue? h)) fun h => hc ?_
    refine toNat_lt_of_toLower ?_
    rw [h]
    exact hdigit ⟨value, hvalue⟩

theorem digitsValue?_append (base acc : Nat) (digits more : List Char) :
    digitsValue? base acc (digits ++ more) =
      (digitsValue? base acc digits).bind fun n => digitsValue? base n more := by
  induction digits generalizing acc with
  | nil => rfl
  | cons c digits ih =>
    rw [List.cons_append, digitsValue?, digitsValue?]
    cases digitValue? base c with
    | none => rfl
    | some value => exact ih _

theorem digitsValue?_concat :
    digitsValue? base 0 (digits ++ [c]) = some n ↔
      ∃ before value, digitsValue? base 0 digits = some before ∧ digitValue? base c = some value ∧
        n = before * base + value := by
  rw [digitsValue?_append, Option.bind_eq_some_iff]
  refine exists_congr fun before => ?_
  simp only [digitsValue?, Option.bind_eq_bind, Option.bind_eq_some_iff, Option.some.injEq,
    exists_and_left, @eq_comm _ _ n]

theorem Numeral.ne_nil (h : Numeral base digits n) : digits ≠ [] := by
  cases h <;> simp

/-- Reading the digits from the left gives the number that they denote. -/
theorem digitsValue?_eq_some (hbase : base ≤ 16) (hne : digits ≠ []) :
    digitsValue? base 0 digits = some n ↔ Numeral base digits n := by
  induction digits using List.reverseRecOn generalizing n with
  | nil => exact absurd rfl hne
  | append_singleton digits c ih =>
    rw [digitsValue?_concat]
    constructor
    · rintro ⟨before, value, hbefore, hvalue, rfl⟩
      rw [digitValue?_eq_some hbase] at hvalue
      by_cases hnil : digits = []
      · subst hnil
        cases hbefore
        rw [Nat.zero_mul, Nat.zero_add]
        exact .digit hvalue
      · exact .more ((ih hnil).mp hbefore) hvalue
    · intro h
      generalize htext : digits ++ [c] = text at h
      cases h with
      | digit h =>
        obtain ⟨rfl, hlast⟩ : digits = [] ∧ [c] = [_] := List.append_inj' htext rfl
        cases hlast
        exact ⟨0, _, rfl, (digitValue?_eq_some hbase).mpr h, by rw [Nat.zero_mul, Nat.zero_add]⟩
      | more hdigits h =>
        obtain ⟨rfl, hlast⟩ := List.append_inj' htext rfl
        cases hlast
        exact ⟨_, _, (ih hdigits.ne_nil).mpr hdigits, (digitValue?_eq_some hbase).mpr h, rfl⟩

theorem Numeral.digitValue?_ne_none (hbase : base ≤ 16) (h : Numeral base digits n) :
    ∀ c ∈ digits, digitValue? base c ≠ none := by
  induction h with
  | digit h =>
    rw [List.forall_mem_singleton, (digitValue?_eq_some hbase).mpr h]
    exact Option.some_ne_none _
  | more _ h ih =>
    rw [List.forall_mem_append, List.forall_mem_singleton, (digitValue?_eq_some hbase).mpr h]
    exact ⟨ih, Option.some_ne_none _⟩

theorem digitValue?_plus (base : Nat) : digitValue? base '+' = none := by
  simp [digitValue?, Char.le_def]

theorem unsignedValue?_eq_some (hbase : base ≤ 16) :
    unsignedValue? base text = some n ↔ Unsigned base text n := by
  have hread (digits : List Char) :
      (if digits.isEmpty then none else digitsValue? base 0 digits) = some n ↔
        Numeral base digits n := by
    by_cases hnil : digits = []
    · subst hnil
      exact iff_of_false (by simp) fun h => h.ne_nil rfl
    · rw [if_neg (by simpa using hnil), digitsValue?_eq_some hbase hnil]
  unfold unsignedValue?
  split
  · next rest =>
    rw [hread]
    refine ⟨.plus, fun h => ?_⟩
    cases h with
    | bare h => exact absurd (digitValue?_plus base) (h.digitValue?_ne_none hbase '+' List.mem_cons_self)
    | plus h => exact h
  · next hplus =>
    rw [hread]
    refine ⟨.bare, fun h => ?_⟩
    cases h with
    | bare h => exact h
    | plus h => exact absurd rfl (hplus _)

end Digits

namespace Config

/-- A text that is a size: a decimal number, or a hexadecimal one after `0x`. -/
inductive IsSize : List Char → Nat → Prop
  | decimal {text : List Char} {n : Nat} (h : Unsigned 10 text n) : IsSize text n
  | hexadecimal {x : Char} {text : List Char} {n : Nat} (hx : x = 'x' ∨ x = 'X')
    (h : Unsigned 16 text n) : IsSize ('0' :: x :: text) n

section Size

variable {c : Char} {n : Nat} {text : List Char}

theorem isSize_hexadecimal (hx : c = 'x' ∨ c = 'X') :
    IsSize ('0' :: c :: text) n ↔ Unsigned 16 text n := by
  refine ⟨fun h => ?_, .hexadecimal hx⟩
  have hnone : digitValue? 10 c = none := by rcases hx with rfl | rfl <;> decide
  cases h with
  | decimal h =>
    cases h with
    | bare h => exact absurd hnone (h.digitValue?_ne_none (by decide) c (by simp))
  | hexadecimal _ h => exact h

theorem isSize_decimal (h : ∀ rest, text ≠ '0' :: 'x' :: rest ∧ text ≠ '0' :: 'X' :: rest) :
    IsSize text n ↔ Unsigned 10 text n := by
  refine ⟨fun hsize => ?_, .decimal⟩
  cases hsize with
  | decimal hsize => exact hsize
  | hexadecimal hx _ =>
    rcases hx with rfl | rfl
    · exact absurd rfl (h _).1
    · exact absurd rfl (h _).2

theorem size?_eq_some {text : String} :
    size? text = some n ↔ IsSize (Text.trim text.toList) n ∧ n < 2 ^ 64 := by
  unfold size?
  dsimp only
  rw [Option.filter_eq_some_iff, decide_eq_true_iff]
  refine and_congr ?_ Iff.rfl
  split
  · next htrim => rw [htrim, unsignedValue?_eq_some (by decide), isSize_hexadecimal (.inl rfl)]
  · next htrim => rw [htrim, unsignedValue?_eq_some (by decide), isSize_hexadecimal (.inr rfl)]
  · next hlower hupper =>
    rw [unsignedValue?_eq_some (by decide), isSize_decimal fun rest => ⟨hlower rest, hupper rest⟩]

/-- A sign belongs behind the mark of a hexadecimal number, and `2 ^ 64` is too large. -/
example : ["+10", " 0X+fF ", "0x", "+0x1", "-0", "18446744073709551616"].map size? =
    [some 10, some 255, none, none, none, none] := by decide

end Size

/-- The number that the environment gives for the chunk size. -/
def GivesChunkSize (lookup : String → Option String) (n : Nat) : Prop :=
  ∃ text inner, lookup "WAYPOINT_CHUNK_SIZE" = some text ∧ Text.Trims text.toList inner ∧
    IsSize inner n ∧ n < 2 ^ 64

theorem givesChunkSize_iff {lookup : String → Option String} {n : Nat} :
    GivesChunkSize lookup n ↔ (lookup "WAYPOINT_CHUNK_SIZE").bind size? = some n := by
  simp only [GivesChunkSize, Text.trims_iff, exists_and_left, exists_eq_left, Option.bind_eq_some_iff,
    size?_eq_some]

end Config

inductive Setting
  | pathPrefix
  | pathSuffix
  | defaultPattern
  | chunkSize
  | shortUrls
deriving DecidableEq, Repr

namespace Setting

/-- The name of the variable that overrides the setting. -/
def key : Setting → String
  | pathPrefix => "WAYPOINT_PREFIX"
  | pathSuffix => "WAYPOINT_SUFFIX"
  | defaultPattern => "WAYPOINT_DEFAULT_PATTERN"
  | chunkSize => "WAYPOINT_CHUNK_SIZE"
  | shortUrls => "WAYPOINT_SHORT_URLS"

theorem key_injective : Function.Injective key := by
  intro setting setting' h
  cases setting <;> cases setting' <;> first | rfl | exact absurd h (by decide)

/-- Both have the same value in the field of the setting. -/
def Agrees (c c' : Config) : Setting → Prop
  | pathPrefix => c.pathPrefix = c'.pathPrefix
  | pathSuffix => c.pathSuffix = c'.pathSuffix
  | defaultPattern => c.defaultPattern = c'.defaultPattern
  | chunkSize => c.chunkSize = c'.chunkSize
  | shortUrls => c.shortUrls = c'.shortUrls

end Setting

namespace Config

/-- A field depends on what it was and on the variable of its own. -/
theorem agrees_override {config config' : Config} {lookup lookup' : String → Option String}
    {setting : Setting} (hold : setting.Agrees config config')
    (hkey : lookup setting.key = lookup' setting.key) :
    setting.Agrees (config.override lookup) (config'.override lookup') := by
  cases setting <;> simp only [Setting.Agrees, Setting.key, override] at hold hkey ⊢ <;> rw [hold, hkey]

theorem agrees_override_self (config : Config) {lookup : String → Option String} {setting : Setting}
    (hkey : lookup setting.key = none) : setting.Agrees (config.override lookup) config := by
  cases setting <;> simp only [Setting.Agrees, Setting.key, override] at hkey ⊢ <;> rw [hkey] <;> rfl

theorem chunkSize_override (config : Config) (lookup : String → Option String) (n : Nat) :
    (config.override lookup).chunkSize = n ↔
      GivesChunkSize lookup n ∨ (∀ m, ¬GivesChunkSize lookup m) ∧ config.chunkSize = n := by
  simp only [givesChunkSize_iff]
  unfold override
  dsimp only
  cases (lookup "WAYPOINT_CHUNK_SIZE").bind size? <;> simp

theorem defaultPattern_override (config : Config) {lookup : String → Option String} {text : String}
    (h : lookup "WAYPOINT_DEFAULT_PATTERN" = some text) :
    (config.override lookup).defaultPattern = if text = "" then config.defaultPattern else text := by
  unfold override
  dsimp only
  rw [h]
  by_cases hempty : text = "" <;> simp [Option.filter, hempty]

theorem override_override (config : Config) (lookup : String → Option String) :
    (config.override lookup).override lookup = config.override lookup := by
  have htwice {α : Type} (given : Option α) (old : α) : given.getD (given.getD old) = given.getD old := by
    cases given <;> rfl
  simp only [override, htwice]

end Config

theorem Operation.config_run (op : Operation) (r : Router) : (op.run r).2.config = r.config := by
  rw [(op.run_eq r).1]
  exact Router.config_of_perform rfl

theorem Router.config_foldl (ops : List Operation) (r : Router) :
    (ops.foldl (fun r op => (op.run r).2) r).config = r.config := by
  induction ops generalizing r with
  | nil => rfl
  | cons op ops ih => rw [List.foldl_cons, ih, op.config_run]

theorem RouteTable.config_toRouter {table : RouteTable} {router : Router} {events : List Event}
    (h : table.toRouter = (.ok router, events)) : router.config = table.config :=
  Router.config_of_perform (perform_calls h)

theorem Matcher.chunkSize_ofRouter {r : Router} {m : Matcher} (h : ofRouter r = .ok m) :
    m.chunkSize = r.config.effectiveChunkSize := by
  unfold ofRouter at h
  simp only [bind, Except.bind, pure, Except.pure] at h
  repeat' split at h
  all_goals cases h
  rfl

/-- The environment overrides each setting by the variable of its own alone: the chunk size by the
numbers below the bound that the trimmed value can be read as, the default pattern by any text that is
not empty. Doing it twice changes nothing more, the routers that follow keep the settings, and no matcher of
theirs has empty chunks. -/
theorem Config.override_exact (config : Config) (lookup : String → Option String) :
    Function.Injective Setting.key ∧
    (∀ (setting : Setting) (config' : Config) (lookup' : String → Option String),
      setting.Agrees config config' → lookup setting.key = lookup' setting.key →
        setting.Agrees (config.override lookup) (config'.override lookup')) ∧
    (∀ setting : Setting, lookup setting.key = none →
      setting.Agrees (config.override lookup) config) ∧
    (∀ n, (config.override lookup).chunkSize = n ↔
      GivesChunkSize lookup n ∨ (∀ m, ¬GivesChunkSize lookup m) ∧ config.chunkSize = n) ∧
    (∀ text, lookup "WAYPOINT_DEFAULT_PATTERN" = some text →
      (config.override lookup).defaultPattern = if text = "" then config.defaultPattern else text) ∧
    (config.override lookup).override lookup = config.override lookup ∧
    (∀ (table : RouteTable) (router : Router) (events : List Event) (ops : List Operation),
      { table with config := config.override lookup }.toRouter = (.ok router, events) →
        (ops.foldl (fun r op => (op.run r).2) router).config = config.override lookup) ∧
    ∀ (router : Router) (m : Matcher), router.config = config.override lookup →
      Matcher.ofRouter router = .ok m →
        m.chunkSize = max (config.override lookup).chunkSize 1 ∧ 1 ≤ m.chunkSize := by
  refine ⟨Setting.key_injective, fun setting config' lookup' => agrees_override,
    fun setting => config.agrees_override_self, config.chunkSize_override lookup,
    fun text => config.defaultPattern_override, config.override_override lookup, ?_, ?_⟩
  · intro table router events ops h
    rw [Router.config_foldl, RouteTable.config_toRouter h]
  · intro router m hconfig hm
    have hsize := Matcher.chunkSize_ofRouter hm
    rw [hconfig, effectiveChunkSize] at hsize
    exact ⟨hsize, hsize ▸ Nat.le_max_right _ 1⟩

end Routing
