import Routing.Proofs.MethodLists
import Routing.Proofs.TextPieces
import Routing.Table.Loading

/-! Reading method lists: which texts are lists, which verbs they name, and that lists put together
name the verbs of either. -/
namespace Routing.MethodMask

/-- One of the words for verbs, in any case. -/
def IsWord (word : List Char) : Prop :=
  String.ofList (word.map Char.toUpper) ∈ ["GET", "HEAD", "POST", "PUT", "DELETE", "ANY", "ALL", "*"]

/-- The words of a text: what is left of its pieces between bars and commas, blank ones left out. -/
def Lists (text : List Char) (list : List (List Char)) : Prop :=
  ∃ pieces trimmed, Text.Pieces (fun c => c == '|' || c == ',') text pieces ∧
    List.Forall₂ Text.Trims pieces trimmed ∧ list = trimmed.filter (!·.isEmpty)

/-- The verbs of a word; an unknown one is refused. -/
def bitsOfWord (word : List Char) : Except Error (BitVec 4) :=
  match wordBits? word with
  | some bits => .ok bits
  | none => .error (.unsupportedMethod (String.ofList word))

def bitsOf : List (List Char) → Except Error (BitVec 4)
  | [] => .ok 0
  | word :: rest => do return (← bitsOfWord word) ||| (← bitsOf rest)

/-- Reads lists one after the other, as far as there is a word in them, and takes their verbs
together. -/
def parseEach (texts : List String) : Except Error MethodMask := do
  let masks ← (texts.filter fun text => !(words text.toList).isEmpty).mapM parse
  match masks with
  | [] => .error (.invalidMethodMask 0)
  | mask :: rest => return rest.foldl union mask

theorem lists_iff {text : List Char} {list : List (List Char)} :
    Lists text list ↔ list = words text := by
  have htrimmed (pieces trimmed : List (List Char)) :
      List.Forall₂ Text.Trims pieces trimmed ↔ trimmed = pieces.map Text.trim := by
    constructor
    · intro h
      induction h with
      | nil => rfl
      | cons hhere _ ih => rw [List.map_cons, ← Text.trims_iff.mp hhere, ← ih]
    · rintro rfl
      rw [List.forall₂_map_right_iff]
      exact List.forall₂_same.mpr fun piece _ => Text.trims_trim piece
  simp only [Lists, Text.pieces_iff, htrimmed, exists_and_left, exists_eq_left]
  rfl

section Words

variable {word : List Char} {list : List (List Char)} {bits : BitVec 4} {e : Error}

/-- A word names some verb, and an unknown one is refused as it is written. -/
theorem bitsOfWord_cases (word : List Char) :
    (IsWord word ∧ ∃ bits, bits ≠ 0 ∧ bitsOfWord word = .ok bits) ∨
      ¬IsWord word ∧ bitsOfWord word = .error (.unsupportedMethod (String.ofList word)) := by
  have hread : (IsWord word ∧ ∃ bits, bits ≠ 0 ∧ wordBits? word = some bits) ∨
      ¬IsWord word ∧ wordBits? word = none := by
    unfold wordBits? IsWord
    generalize String.ofList (word.map Char.toUpper) = upper
    split <;> simp_all
  unfold bitsOfWord
  rcases hread with ⟨hknown, bits, hne, hbits⟩ | ⟨hunknown, hnone⟩
  · exact .inl ⟨hknown, bits, hne, by rw [hbits]⟩
  · exact .inr ⟨hunknown, by rw [hnone]⟩

theorem bitsOf_cons_ok (h : bitsOfWord word = .ok bits) (list : List (List Char)) :
    bitsOf (word :: list) = (bitsOf list).map (bits ||| ·) := by
  rw [bitsOf, h]
  cases bitsOf list <;> rfl

theorem bitsOf_cons_error (h : bitsOfWord word = .error e) (list : List (List Char)) :
    bitsOf (word :: list) = .error e := by
  rw [bitsOf, h]
  rfl

theorem bitsOf_append (list more : List (List Char)) :
    bitsOf (list ++ more) = (bitsOf list).bind fun bits => (bitsOf more).map (bits ||| ·) := by
  induction list with
  | nil =>
    rw [List.nil_append, bitsOf]
    cases bitsOf more <;> simp [Except.bind, Except.map]
  | cons word list ih =>
    rw [List.cons_append]
    cases hword : bitsOfWord word with
    | error e => rw [bitsOf_cons_error hword, bitsOf_cons_error hword]; rfl
    | ok bits =>
      rw [bitsOf_cons_ok hword, bitsOf_cons_ok hword, ih]
      cases bitsOf list <;> cases bitsOf more <;> simp [Except.bind, Except.map, BitVec.or_assoc]

theorem bitsOf_eq_zero (h : bitsOf list = .ok bits) : bits = 0 ↔ list = [] := by
  cases list with
  | nil =>
    cases h
    simp
  | cons word list =>
    rcases bitsOfWord_cases word with ⟨-, set, hne, hset⟩ | ⟨-, hunknown⟩
    · rw [bitsOf_cons_ok hset] at h
      cases hrest : bitsOf list with
      | error e =>
        rw [hrest] at h
        cases h
      | ok rest =>
        rw [hrest] at h
        cases h
        exact iff_of_false (fun hzero => hne (BitVec.or_eq_zero_iff.mp hzero).1) (List.cons_ne_nil _ _)
    · rw [bitsOf_cons_error hunknown] at h
      cases h

/-- The leftmost unknown word is refused. -/
theorem bitsOf_eq_error :
    bitsOf list = .error e ↔ ∃ before word after, list = before ++ word :: after ∧
      (∀ known ∈ before, IsWord known) ∧ ¬IsWord word ∧ e = .unsupportedMethod (String.ofList word) := by
  induction list with
  | nil => simp [bitsOf]
  | cons word list ih =>
    rcases bitsOfWord_cases word with ⟨hknown, bits, -, hbits⟩ | ⟨hunknown, hrefused⟩
    · have hmap : (bitsOf list).map (bits ||| ·) = .error e ↔ bitsOf list = .error e := by
        cases bitsOf list <;> simp [Except.map]
      rw [bitsOf_cons_ok hbits, hmap, ih]
      constructor
      · rintro ⟨before, unknown, after, rfl, hbefore, hunknown, rfl⟩
        exact ⟨word :: before, unknown, after, rfl, List.forall_mem_cons.mpr ⟨hknown, hbefore⟩,
          hunknown, rfl⟩
      · rintro ⟨before, unknown, after, hsplit, hbefore, hunknown, rfl⟩
        cases before with
        | nil =>
          cases hsplit
          exact absurd hknown hunknown
        | cons first before =>
          cases hsplit
          exact ⟨before, unknown, after, rfl, (List.forall_mem_cons.mp hbefore).2, hunknown, rfl⟩
    · rw [bitsOf_cons_error hrefused, Except.error.injEq]
      constructor
      · rintro rfl
        exact ⟨[], word, list, rfl, by simp, hunknown, rfl⟩
      · rintro ⟨before, unknown, after, hsplit, hbefore, -, rfl⟩
        cases before with
        | nil =>
          cases hsplit
          rfl
        | cons first before =>
          cases hsplit
          exact absurd (hbefore word List.mem_cons_self) hunknown

theorem exists_bitsOf_iff : (∃ bits, bitsOf list = .ok bits) ↔ ∀ word ∈ list, IsWord word := by
  induction list with
  | nil => simp [bitsOf]
  | cons word list ih =>
    rw [List.forall_mem_cons, ← ih]
    rcases bitsOfWord_cases word with ⟨hknown, bits, -, hbits⟩ | ⟨hunknown, hrefused⟩
    · rw [bitsOf_cons_ok hbits, and_iff_right hknown]
      cases bitsOf list <;> simp [Except.map]
    · rw [bitsOf_cons_error hrefused]
      simp [hunknown]

end Words

section Parse

variable {text : String} {mask : MethodMask} {bits : BitVec 4} {e : Error}

theorem foldl_or (sets : List (BitVec 4)) (bits : BitVec 4) :
    sets.foldl (· ||| ·) bits = bits ||| sets.foldl (· ||| ·) 0 := by
  induction sets generalizing bits with
  | nil => simp
  | cons set sets ih =>
    rw [List.foldl_cons, List.foldl_cons, ih, ih (0 ||| set)]
    simp [BitVec.or_assoc]

theorem ofBits_toNat (bits : BitVec 4) :
    ofBits bits.toNat =
      if h : bits = 0 then .error (.invalidMethodMask 0) else .ok ⟨bits, h⟩ := by
  revert bits
  decide

theorem parse_eq (text : String) :
    parse text = (bitsOf (words text.toList)).bind fun bits => ofBits bits.toNat := by
  have hsets (list : List (List Char)) :
      (list.mapM bitsOfWord).map (fun sets => sets.foldl (· ||| ·) (0 : BitVec 4)) = bitsOf list := by
    induction list with
    | nil => rfl
    | cons word list ih =>
      rw [List.mapM_cons]
      cases hword : bitsOfWord word with
      | error e => rw [bitsOf_cons_error hword]; rfl
      | ok bits =>
        rw [bitsOf_cons_ok hword, ← ih]
        cases list.mapM bitsOfWord with
        | error e => rfl
        | ok sets =>
          change Except.ok ((bits :: sets).foldl (· ||| ·) 0) = Except.ok (bits ||| sets.foldl (· ||| ·) 0)
          rw [List.foldl_cons, foldl_or]
          simp
  change ((words text.toList).mapM bitsOfWord).bind
    (fun sets => ofBits (sets.foldl (· ||| ·) (0 : BitVec 4)).toNat) = _
  rw [← hsets]
  cases (words text.toList).mapM bitsOfWord <;> rfl

theorem parse_eq_ok :
    parse text = .ok mask ↔ bitsOf (words text.toList) = .ok mask.bits := by
  rw [parse_eq]
  cases bitsOf (words text.toList) with
  | error e =>
    constructor
    · intro h
      cases h
    · intro h
      cases h
  | ok bits =>
    change ofBits bits.toNat = .ok mask ↔ _
    rw [ofBits_toNat, Except.ok.injEq]
    split_ifs with hzero
    · exact iff_of_false not_false fun h => mask.bits_ne_zero (h ▸ hzero)
    · rw [Except.ok.injEq]
      exact ⟨fun h => h ▸ rfl, fun h => by cases mask; subst h; rfl⟩

theorem parse_eq_error :
    parse text = .error e ↔
      (words text.toList = [] ∧ e = .invalidMethodMask 0) ∨ bitsOf (words text.toList) = .error e := by
  rw [parse_eq]
  cases hbits : bitsOf (words text.toList) with
  | error e' =>
    have hne : words text.toList ≠ [] := by
      intro hnil
      rw [hnil] at hbits
      cases hbits
    simp [Except.bind, hne]
  | ok bits =>
    change ofBits bits.toNat = .error e ↔ _
    rw [ofBits_toNat, ← bitsOf_eq_zero hbits]
    split_ifs with hzero
    · refine ⟨fun h => .inl ⟨hzero, (Except.error.inj h).symm⟩, ?_⟩
      rintro (⟨-, rfl⟩ | h)
      · rfl
      · cases h
    · refine ⟨False.elim, ?_⟩
      rintro (⟨h, -⟩ | h)
      · exact absurd h hzero
      · cases h

/-- Masks with the same verbs are the same. -/
theorem eq_of_contains {mask mask' : MethodMask}
    (h : ∀ verb, mask.contains verb = true ↔ mask'.contains verb = true) : mask = mask' := by
  have hbits : ∀ a b : BitVec 4,
      (∀ verb ∈ Verb.all, (a &&& verb.bit != 0) = true ↔ (b &&& verb.bit != 0) = true) → a = b := by
    decide
  obtain ⟨bits, hne⟩ := mask
  obtain ⟨bits', hne'⟩ := mask'
  obtain rfl := hbits bits bits' fun verb _ => h verb
  rfl

theorem parse_eq_ok_iff :
    parse text = .ok mask ↔ words text.toList ≠ [] ∧ (∀ word ∈ words text.toList, IsWord word) ∧
      ∀ verb, mask.contains verb = true ↔ ∃ word ∈ words text.toList, verb.IsNamedBy word := by
  constructor
  · intro h
    have hbits := parse_eq_ok.mp h
    exact ⟨fun hnil => mask.bits_ne_zero ((bitsOf_eq_zero hbits).mpr hnil),
      exists_bitsOf_iff.mp ⟨_, hbits⟩, contains_parse h⟩
  · rintro ⟨hne, hknown, hverbs⟩
    obtain ⟨bits, hbits⟩ := exists_bitsOf_iff.mpr hknown
    have hzero : bits ≠ 0 := mt (bitsOf_eq_zero hbits).mp hne
    have hparse : parse text = .ok ⟨bits, hzero⟩ := parse_eq_ok.mpr hbits
    rw [hparse, Except.ok.injEq]
    exact eq_of_contains fun verb => (contains_parse hparse verb).trans (hverbs verb).symm

theorem toList_joined (text other : String) (separator : Char) :
    (text ++ separator.toString ++ other).toList = text.toList ++ separator :: other.toList := by
  simp

theorem parse_joined {other : String} {mask' : MethodMask} {separator : Char}
    (hseparator : separator = '|' ∨ separator = ',') (h : parse text = .ok mask)
    (hother : parse other = .ok mask') :
    parse (text ++ separator.toString ++ other) = .ok (mask ∪ mask') := by
  have hends : (separator == '|' || separator == ',') = true := by
    rcases hseparator with rfl | rfl <;> rfl
  rw [parse_eq_ok, toList_joined, words_append hends, bitsOf_append, parse_eq_ok.mp h,
    parse_eq_ok.mp hother]
  rfl

end Parse

section Each

theorem bits_foldl_union (mask : MethodMask) (masks : List MethodMask) :
    (masks.foldl union mask).bits = (mask :: masks).foldr (fun m bits => m.bits ||| bits) 0 := by
  induction masks generalizing mask with
  | nil => simp
  | cons next masks ih =>
    rw [List.foldl_cons, ih, List.foldr_cons, List.foldr_cons, List.foldr_cons, ← BitVec.or_assoc]
    rfl

/-- Lists one after the other name the verbs of all of them. -/
theorem bitsOf_flatMap (texts : List String) :
    bitsOf (texts.flatMap fun text => words text.toList) =
      ((texts.filter fun text => !(words text.toList).isEmpty).mapM parse).map fun masks =>
        masks.foldr (fun mask bits => mask.bits ||| bits) 0 := by
  induction texts with
  | nil => rfl
  | cons text texts ih =>
    rw [List.flatMap_cons, bitsOf_append, ih]
    by_cases hwords : words text.toList = []
    · rw [hwords, List.filter_cons_of_neg (by simp [hwords])]
      cases (texts.filter fun text => !(words text.toList).isEmpty).mapM parse <;>
        simp [bitsOf, Except.bind, Except.map]
    · rw [List.filter_cons_of_pos (by simp [hwords]), List.mapM_cons]
      cases hbits : bitsOf (words text.toList) with
      | error e =>
        rw [parse_eq_error.mpr (.inr hbits)]
        rfl
      | ok bits =>
        have hzero : bits ≠ 0 := mt (bitsOf_eq_zero hbits).mp hwords
        have hparse : parse text = .ok ⟨bits, hzero⟩ := parse_eq_ok.mpr hbits
        rw [hparse]
        cases (texts.filter fun text => !(words text.toList).isEmpty).mapM parse <;> rfl

theorem parse_intercalate (texts : List String) :
    parse ("|".intercalate texts) = parseEach texts := by
  have hbits := bitsOf_flatMap texts
  rw [← words_intercalate] at hbits
  unfold parseEach
  cases hmasks : (texts.filter fun text => !(words text.toList).isEmpty).mapM parse with
  | error e =>
    rw [hmasks] at hbits
    exact parse_eq_error.mpr (.inr hbits)
  | ok masks =>
    rw [hmasks] at hbits
    cases masks with
    | nil => exact parse_eq_error.mpr (.inl ⟨(bitsOf_eq_zero hbits).mp rfl, rfl⟩)
    | cons mask masks => exact parse_eq_ok.mpr (hbits.trans (congrArg _ (bits_foldl_union mask masks).symm))

end Each

/-- A text is a method list if it has words, and all of them name verbs; its mask holds the verbs that
they name. Else the leftmost word that names none is refused, or the text for having no word. Two lists
with a separator between them, and so all lists of an entry of a table, name the verbs of either. -/
theorem parse_exact (text : String) :
    (∃! list, Lists text.toList list) ∧
    (∀ list, Lists text.toList list →
      (∀ mask, parse text = .ok mask ↔ list ≠ [] ∧ (∀ word ∈ list, IsWord word) ∧
        ∀ verb, mask.contains verb = true ↔ ∃ word ∈ list, verb.IsNamedBy word) ∧
      ∀ e, parse text = .error e ↔ (list = [] ∧ e = .invalidMethodMask 0) ∨
        ∃ before word after, list = before ++ word :: after ∧ (∀ known ∈ before, IsWord known) ∧
          ¬IsWord word ∧ e = .unsupportedMethod (String.ofList word)) ∧
    (∀ other mask mask' separator, separator = '|' ∨ separator = ',' →
      parse text = .ok mask → parse other = .ok mask' →
        parse (text ++ separator.toString ++ other) = .ok (mask ∪ mask')) ∧
    ∀ entry : RouteEntry, entry.mask =
      inTask ("invalid methods " ++ Text.quotedList entry.methods) (parseEach entry.methods) := by
  refine ⟨⟨words text.toList, lists_iff.mpr rfl, fun _ => lists_iff.mp⟩, ?_, ?_, ?_⟩
  · intro list hlist
    obtain rfl := lists_iff.mp hlist
    exact ⟨fun mask => parse_eq_ok_iff, fun e => by rw [parse_eq_error, bitsOf_eq_error]⟩
  · exact fun other mask mask' separator => parse_joined
  · intro entry
    rw [← parse_intercalate]
    rfl

end Routing.MethodMask
