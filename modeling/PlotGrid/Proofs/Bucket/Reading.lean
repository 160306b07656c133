import PlotGrid.Proofs.Bucket.Entries
import PlotGrid.Proofs.Registry.Keys

/-!
# Reading buckets back

The text of a bucket lists keys with their weights, with blanks around them and empty parts in
between. It is cut at the commas outside of brackets, and each part at its last colon. So keys
with commas in their brackets and colons anywhere are read as they are written, and the bucket
that is read holds what was written, as long as the weights have a sum within their range.

- `Text.Bracketed`: texts whose commas are all inside of brackets, from a number of open brackets
  on.
- `Bucket.parts_intercalate`: such texts are not cut.
- `Bucket.Part`, `Bucket.spec`: the text of a bucket and its parts.
- `Bucket.addPart_known`, `Bucket.foldlM_addPart`: what reading makes of one part, and of all.
- `bucket_texts_read_back`: the bucket of a text, or the reason why there is none.
-/

namespace PlotGrid

/-! ## Texts in brackets -/

namespace Text

variable {s t before core after : List Char} {c : Char} {depth : Nat}

/-- A text that starts behind `depth` open brackets: no bracket is closed that is not open, all are
closed in the end, and where a comma stands, one is open. -/
structure Bracketed (depth : Nat) (s : List Char) : Prop where
  opened : ∀ p, p <+: s → p.count ']' ≤ depth + p.count '['
  closed : s.count ']' = depth + s.count '['
  inside : ∀ p, p ++ [','] <+: s → p.count ']' < depth + p.count '['

/-- The number of open brackets behind a character. -/
def depthAfter (depth : Nat) (c : Char) : Nat :=
  if c = '[' then depth + 1 else if c = ']' then depth - 1 else depth

/-- Counting from behind a character comes to the same as counting from before it. -/
theorem count_cons_depthAfter (h : c = ']' → 0 < depth) (p : List Char) :
    (c :: p).count ']' + (depthAfter depth c + p.count '[') =
      p.count ']' + (depth + (c :: p).count '[') := by
  rw [depthAfter]
  by_cases hopen : c = '['
  · subst hopen
    simp
    omega
  · by_cases hclose : c = ']'
    · subst hclose
      have hpos := h rfl
      simp
      omega
    · simp [hopen, hclose]

theorem bracketed_nil_iff : Bracketed depth [] ↔ depth = 0 := by
  constructor
  · intro h
    have hclosed := h.closed
    simp at hclosed
    exact hclosed.symm
  · rintro rfl
    refine ⟨fun p hp => ?_, rfl, fun p hp => ?_⟩
    · simp [List.prefix_nil.mp hp]
    · exact absurd (List.prefix_nil.mp hp) (by simp)

/-- Behind each character the rest of the text starts with the brackets that are open there. -/
theorem bracketed_cons_iff :
    Bracketed depth (c :: s) ↔
      (c = ']' ∨ c = ',' → 0 < depth) ∧ Bracketed (depthAfter depth c) s := by
  constructor
  · intro h
    have hpos : c = ']' ∨ c = ',' → 0 < depth := by
      rintro (rfl | rfl)
      · have hopened := h.opened [']'] (List.cons_prefix_cons.mpr ⟨rfl, List.nil_prefix⟩)
        simp at hopened
        exact hopened
      · exact h.inside [] (List.cons_prefix_cons.mpr ⟨rfl, List.nil_prefix⟩)
    have hcount := count_cons_depthAfter fun hc => hpos (.inl hc)
    refine ⟨hpos, fun p hp => ?_, ?_, fun p hp => ?_⟩
    · have hopened := h.opened (c :: p) (List.cons_prefix_cons.mpr ⟨rfl, hp⟩)
      have := hcount p
      omega
    · have hclosed := h.closed
      have := hcount s
      omega
    · have hinside := h.inside (c :: p) (List.cons_prefix_cons.mpr ⟨rfl, hp⟩)
      have := hcount p
      omega
  · rintro ⟨hpos, h⟩
    have hcount := count_cons_depthAfter fun hc => hpos (.inl hc)
    refine ⟨fun p hp => ?_, ?_, fun p hp => ?_⟩
    · obtain rfl | ⟨q, rfl, hq⟩ := List.prefix_cons_iff.mp hp
      · simp
      · have hopened := h.opened q hq
        have := hcount q
        omega
    · have hclosed := h.closed
      have := hcount s
      omega
    · cases p with
      | nil =>
        have hc := (List.cons_prefix_cons.mp hp).1
        simpa using hpos (.inr hc.symm)
      | cons d q =>
        obtain ⟨rfl, hq⟩ := List.cons_prefix_cons.mp hp
        have hinside := h.inside q hq
        have := hcount q
        omega

instance decidableBracketed : ∀ depth s, Decidable (Bracketed depth s)
  | _, [] => decidable_of_iff _ bracketed_nil_iff.symm
  | depth, c :: s =>
    have := decidableBracketed (depthAfter depth c) s
    decidable_of_iff _ bracketed_cons_iff.symm

/-- A text without brackets and commas keeps the brackets that are open. -/
theorem bracketed_append_of_plain (h : ∀ c ∈ s, c ≠ '[' ∧ c ≠ ']' ∧ c ≠ ',') :
    Bracketed depth (s ++ t) ↔ Bracketed depth t := by
  induction s with
  | nil => rfl
  | cons c rest ih =>
    obtain ⟨hopen, hclose, hcomma⟩ := h c List.mem_cons_self
    rw [List.cons_append, bracketed_cons_iff, depthAfter, if_neg hopen, if_neg hclose,
      ih fun d hd => h d (List.mem_cons_of_mem c hd)]
    simp [hclose, hcomma]

theorem bracketed_of_plain (h : ∀ c ∈ s, c ≠ '[' ∧ c ≠ ']' ∧ c ≠ ',') : Bracketed 0 s := by
  have hnil := (bracketed_append_of_plain (t := []) h).mpr (bracketed_nil_iff.mpr rfl)
  rwa [List.append_nil] at hnil

theorem plain_of_isBlank (h : isBlank c = true) : c ≠ '[' ∧ c ≠ ']' ∧ c ≠ ',' := by
  refine ⟨?_, ?_, ?_⟩
  all_goals
    rintro rfl
    exact absurd h (by decide)

/-- Texts one after the other. -/
theorem Bracketed.append (hs : Bracketed depth s) (ht : Bracketed 0 t) :
    Bracketed depth (s ++ t) := by
  induction s generalizing depth with
  | nil =>
    rw [bracketed_nil_iff.mp hs]
    exact ht
  | cons c rest ih =>
    obtain ⟨hpos, hrest⟩ := bracketed_cons_iff.mp hs
    exact bracketed_cons_iff.mpr ⟨hpos, ih hrest⟩

/-! ## Blanks around a text -/

theorem trim_of_blank (h : ∀ c ∈ s, isBlank c = true) : trim s = [] := by
  have hdrop : s.dropWhile isBlank = [] := by
    have hall : (s ++ []).dropWhile isBlank = [] := List.dropWhile_append_of_pos h
    rwa [List.append_nil] at hall
  rw [trim, hdrop]
  rfl

theorem dropWhile_blank_append (hs : ∀ c ∈ s, isBlank c = true) (hne : core ≠ [])
    (hcore : ∀ c ∈ core.head?, isBlank c = false) :
    (s ++ (core ++ t)).dropWhile isBlank = core ++ t := by
  obtain ⟨c, rest, rfl⟩ := List.exists_cons_of_ne_nil hne
  rw [List.dropWhile_append_of_pos hs]
  exact dropWhile_isBlank hcore

/-- Blanks around a text are dropped. -/
theorem trim_append (hbefore : ∀ c ∈ before, isBlank c = true)
    (hafter : ∀ c ∈ after, isBlank c = true) (hne : core ≠ []) (hcore : Tight core) :
    trim (before ++ (core ++ after)) = core := by
  have hreverse : (core ++ after).reverse = after.reverse ++ (core.reverse ++ []) := by simp
  have hlast : ∀ c ∈ core.reverse.head?, isBlank c = false := by
    rw [List.head?_reverse]
    exact hcore.2
  rw [trim, dropWhile_blank_append hbefore hne hcore.1, trimRight, hreverse,
    dropWhile_blank_append (by simpa using hafter) (by simpa using hne) hlast]
  simp

end Text

namespace Bucket

/-! ## Cutting -/

section Cutting

variable {depth : Nat} {c : Char} {s t next : List Char} {more : List (List Char)}

/-- A character at which a text is not cut belongs to the part that follows. -/
theorem parts_cons (hpos : c = ',' → 0 < depth)
    (h : parts (Text.depthAfter depth c) t = next :: more) :
    parts depth (c :: t) = (c :: next) :: more := by
  have hcut : ¬ (c = ',' ∧ depth = 0) := fun hc => Nat.ne_of_gt (hpos hc.1) hc.2
  unfold Text.depthAfter at h
  rw [parts, if_neg hcut]
  dsimp only
  rw [h]

/-- A text whose commas are all inside of brackets is not cut. -/
theorem parts_of_bracketed (h : Text.Bracketed depth s) : parts depth s = [s] := by
  induction s generalizing depth with
  | nil => rfl
  | cons c rest ih =>
    obtain ⟨hpos, hrest⟩ := Text.bracketed_cons_iff.mp h
    exact parts_cons (fun hc => hpos (.inr hc)) (ih hrest)

theorem parts_append (h : Text.Bracketed depth s) (t : List Char) :
    parts depth (s ++ ',' :: t) = s :: parts 0 t := by
  induction s generalizing depth with
  | nil =>
    obtain rfl := Text.bracketed_nil_iff.mp h
    rfl
  | cons c rest ih =>
    obtain ⟨hpos, hrest⟩ := Text.bracketed_cons_iff.mp h
    exact parts_cons (fun hc => hpos (.inr hc)) (ih hrest)

/-- **A list of texts is cut at the commas between them**, and at no others. -/
theorem parts_intercalate {texts : List (List Char)} (hne : texts ≠ [])
    (h : ∀ s ∈ texts, Text.Bracketed 0 s) : parts 0 ([','].intercalate texts) = texts := by
  induction texts with
  | nil => exact absurd rfl hne
  | cons s rest ih =>
    have hs := h s List.mem_cons_self
    cases rest with
    | nil => rw [List.intercalate_singleton, parts_of_bracketed hs]
    | cons next more =>
      have hrest := ih (List.cons_ne_nil next more) fun t ht => h t (List.mem_cons_of_mem s ht)
      rw [List.intercalate_cons_cons, List.append_assoc, List.singleton_append,
        parts_append hs, hrest]

end Cutting

/-! ## Parts -/

/-- A part of the text of a bucket: blanks alone, or a key and its weight between blanks. -/
inductive Part
  | empty (blanks : List Char)
  | entry (before : List Char) (key : String) (weight : Nat) (after : List Char)

namespace Part

/-- A key with its weight. -/
def core (key : String) (weight : Nat) : List Char :=
  key.toList ++ ':' :: (toString weight).toList

/-- The text of a part. -/
def text : Part → List Char
  | empty blanks => blanks
  | entry before key weight after => before ++ (core key weight ++ after)

/-- The key and the weight of a part. -/
def pair? : Part → Option (String × Nat)
  | empty _ => none
  | entry _ key weight _ => some (key, weight)

/-- What stands around the key and its weight is blank. -/
def Spaced : Part → Prop
  | empty blanks => ∀ c ∈ blanks, Text.isBlank c = true
  | entry before _ _ after =>
    (∀ c ∈ before, Text.isBlank c = true) ∧ ∀ c ∈ after, Text.isBlank c = true

-- the blanks are looked at, where the other instance would go through all characters
instance : ∀ p : Part, Decidable p.Spaced
  | empty blanks => List.decidableBAll _ blanks
  | entry before _ _ after =>
    @instDecidableAnd _ _ (List.decidableBAll _ before) (List.decidableBAll _ after)

end Part

/-- The keys and weights of the parts. -/
def pairs (ps : List Part) : List (String × Nat) :=
  ps.filterMap Part.pair?

/-- The sum of the weights of the parts. -/
def sum (ps : List Part) : Nat :=
  ((pairs ps).map Prod.snd).sum

/-- The text of a bucket, with commas between the parts. -/
def spec (ps : List Part) : String :=
  .ofList ([','].intercalate (ps.map Part.text))

/-- A key that can stand in the text of a bucket. -/
structure IsKey (key : String) : Prop where
  nonempty : key.toList ≠ []
  tight : Text.Tight key.toList
  bracketed : Text.Bracketed 0 key.toList

instance (key : String) : Decidable (IsKey key) :=
  decidable_of_iff (key.toList ≠ [] ∧ Text.Tight key.toList ∧ Text.Bracketed 0 key.toList)
    ⟨fun h => ⟨h.1, h.2.1, h.2.2⟩, fun h => ⟨h.nonempty, h.tight, h.bracketed⟩⟩

/-- A key with a weight in its range that names a block, unless it weighs nothing. -/
structure Readable (reg : Registry) (pair : String × Nat) : Prop where
  key : IsKey pair.1
  weight : pair.2 ≤ greatestWeight
  known : pair.2 ≠ 0 → (reg.blockOfKey? pair.1).isSome

/-- The entry that a key with its weight stands for; none without weight. -/
def weighed? (reg : Registry) (pair : String × Nat) : Option (Voxel × Nat) :=
  if pair.2 = 0 then none else (reg.blockOfKey? pair.1).map fun block => (⟨block, none⟩, pair.2)

variable {reg : Registry} {b : Bucket} {whole key : String} {n : Nat} {ps : List Part}

/-- The digits of a numeral are no blanks and no marks. -/
theorem plain_of_mem_toString {c : Char} (h : c ∈ (toString n).toList) :
    Text.isBlank c = false ∧ c ≠ ':' ∧ c ≠ '[' ∧ c ≠ ']' ∧ c ≠ ',' := by
  rw [Nat.toString_eq_ofList_toDigits, String.toList_ofList] at h
  have hdigit : c.isDigit = true := Nat.isDigit_of_mem_toDigits (by decide) (by decide) h
  refine ⟨?_, ?_, ?_, ?_, ?_⟩
  · have hrange : 48 ≤ c.toNat ∧ c.toNat ≤ 57 := by
      simpa [Char.isDigit, UInt32.le_iff_toNat_le] using hdigit
    simp [Text.isBlank, Text.blankRanges]
    omega
  all_goals
    rintro rfl
    exact absurd hdigit (by decide)

theorem toString_toList_ne_nil : (toString n).toList ≠ [] := by
  rw [Nat.toString_eq_ofList_toDigits, String.toList_ofList]
  exact Nat.toDigits_ne_nil

/-- A key with its weight is cut at its last colon. -/
theorem keyAndWeight_core : keyAndWeight (Part.core key n) = (key.toList, n) := by
  have hcolon : ':' ∉ (toString n).toList := fun h => (plain_of_mem_toString h).2.1 rfl
  rw [keyAndWeight, Part.core, Text.cutLast?_append _ hcolon]
  dsimp only
  rw [Text.digits?_toString]

theorem core_ne_nil : Part.core key n ≠ [] := by
  simp [Part.core]

/-- There is no blank at the ends of a key with its weight. -/
theorem tight_core (h : IsKey key) : Text.Tight (Part.core key n) := by
  constructor
  · obtain ⟨c, rest, hkey⟩ := List.exists_cons_of_ne_nil h.nonempty
    have hhead := h.tight.1
    rw [hkey] at hhead
    rw [Part.core, hkey]
    exact hhead
  · intro c hc
    have hsplit : Part.core key n = (key.toList ++ [':']) ++ (toString n).toList := by
      simp [Part.core]
    rw [hsplit, List.getLast?_append, List.getLast?_eq_some_getLast toString_toList_ne_nil,
      Option.some_or] at hc
    rw [← Option.mem_some_iff.mp hc]
    exact (plain_of_mem_toString (List.getLast_mem _)).1

/-- The commas of a part are inside of brackets, for they are those of its key. -/
theorem bracketed_text {p : Part} (hspaced : p.Spaced) (h : ∀ pair ∈ p.pair?, IsKey pair.1) :
    Text.Bracketed 0 p.text := by
  cases p with
  | empty blanks => exact Text.bracketed_of_plain fun c hc => Text.plain_of_isBlank (hspaced c hc)
  | entry before key weight after =>
    obtain ⟨hbefore, hafter⟩ := hspaced
    have hweight : ∀ c ∈ ':' :: (toString weight).toList, c ≠ '[' ∧ c ≠ ']' ∧ c ≠ ',' := by
      intro c hc
      rcases List.mem_cons.mp hc with rfl | hdigit
      · decide
      · exact (plain_of_mem_toString hdigit).2.2
    have hcore : Text.Bracketed 0 (Part.core key weight) :=
      (h (key, weight) rfl).bracketed.append (Text.bracketed_of_plain hweight)
    refine (Text.bracketed_append_of_plain fun c hc => ?_).mpr (hcore.append ?_)
    · exact Text.plain_of_isBlank (hbefore c hc)
    · exact Text.bracketed_of_plain fun c hc => Text.plain_of_isBlank (hafter c hc)

/-! ## Reading -/

section Step

/-- An empty part adds nothing. -/
theorem addPart_empty {blanks : List Char} (h : (Part.empty blanks).Spaced) :
    addPart reg whole b blanks = .ok b := by
  rw [addPart, Text.trim_of_blank h]
  rfl

variable {before after : List Char} (hspaced : (Part.entry before key n after).Spaced)
  (hkey : IsKey key)

include hspaced hkey

/-- A key without weight adds nothing. -/
theorem addPart_weightless (hn : n = 0) :
    addPart reg whole b (Part.entry before key n after).text = .ok b := by
  rw [addPart, Part.text, Text.trim_append hspaced.1 hspaced.2 core_ne_nil (tight_core hkey)]
  dsimp only
  rw [if_neg core_ne_nil, keyAndWeight_core, hn]
  rfl

/-- A key with a weight adds its block, if the sum allows for it. -/
theorem addPart_known {block : Block} (hpos : n ≠ 0) (hn : n ≤ greatestWeight)
    (hblock : reg.blockOfKey? key = some block) :
    addPart reg whole b (Part.entry before key n after).text =
      if b.total + n ≤ greatestWeight then .ok (b.add ⟨block, none⟩ n)
      else .error (.heavySum whole) := by
  rw [addPart, Part.text, Text.trim_append hspaced.1 hspaced.2 core_ne_nil (tight_core hkey)]
  dsimp only
  rw [if_neg core_ne_nil, keyAndWeight_core]
  dsimp only
  rw [if_neg (Nat.not_lt.mpr hn), if_neg hpos, String.ofList_toList, hblock]
  dsimp only
  by_cases hsum : b.total + n ≤ greatestWeight
  · rw [if_pos hsum, if_neg (Nat.not_lt.mpr hsum)]
  · rw [if_neg hsum, if_pos (Nat.not_le.mp hsum)]

end Step

/-- **What all parts of a text add**: the entries of their pairs, in order, and the sum of the
weights, unless it is out of range. -/
theorem foldlM_addPart (hspaced : ∀ p ∈ ps, p.Spaced)
    (hpairs : ∀ pair ∈ pairs ps, Readable reg pair) (hb : b.total ≤ greatestWeight) :
    (ps.map Part.text).foldlM (addPart reg whole) b =
      if b.total + sum ps ≤ greatestWeight then
        .ok ⟨b.entries ++ (pairs ps).filterMap (weighed? reg), b.total + sum ps⟩
      else .error (.heavySum whole) := by
  induction ps generalizing b with
  | nil =>
    simp only [sum, pairs, List.filterMap_nil, List.map_nil, List.sum_nil, Nat.add_zero,
      List.append_nil, if_pos hb]
    rfl
  | cons p rest ih =>
    have hrest := fun q hq => hspaced q (List.mem_cons_of_mem p hq)
    rw [List.map_cons, List.foldlM_cons]
    cases p with
    | empty blanks =>
      show addPart reg whole b blanks >>= _ = _
      rw [addPart_empty (hspaced _ List.mem_cons_self)]
      exact ih hrest hpairs hb
    | entry before key n after =>
      have hcons : pairs (Part.entry before key n after :: rest) = (key, n) :: pairs rest := rfl
      have hsum : sum (Part.entry before key n after :: rest) = n + sum rest := by
        rw [sum, hcons, List.map_cons, List.sum_cons, sum]
      rw [hcons] at hpairs ⊢
      obtain ⟨hkey, hn, hknown⟩ := hpairs (key, n) List.mem_cons_self
      have hreadable := fun pair hpair => hpairs pair (List.mem_cons_of_mem (key, n) hpair)
      rw [hsum, List.filterMap_cons]
      by_cases hzero : n = 0
      · rw [addPart_weightless (hspaced _ List.mem_cons_self) hkey hzero, weighed?, if_pos hzero]
        subst hzero
        rw [Nat.zero_add]
        exact ih hrest hreadable hb
      · obtain ⟨block, hblock⟩ := Option.isSome_iff_exists.mp (hknown hzero)
        rw [addPart_known (hspaced _ List.mem_cons_self) hkey hzero hn hblock, weighed?,
          if_neg hzero, hblock, ← Nat.add_assoc]
        by_cases hfits : b.total + n ≤ greatestWeight
        · have hadd := ih hrest hreadable (b := b.add ⟨block, none⟩ n) hfits
          simp only [add, List.append_assoc, List.singleton_append] at hadd
          rw [if_pos hfits]
          exact hadd
        · -- a sum that is too large stays so
          rw [if_neg hfits, if_neg fun h => hfits (by omega)]
          rfl

/-- The text of a bucket is read part by part. -/
theorem foldlM_parts_spec (hspaced : ∀ p ∈ ps, p.Spaced)
    (hkeys : ∀ pair ∈ pairs ps, IsKey pair.1) :
    (parts 0 (spec ps).toList).foldlM (addPart reg whole) b =
      (ps.map Part.text).foldlM (addPart reg whole) b := by
  rw [spec, String.toList_ofList]
  by_cases hnil : ps = []
  · -- no parts are written like one empty part
    subst hnil
    have hempty : addPart reg whole b [] = .ok b :=
      addPart_empty fun c hc => absurd hc List.not_mem_nil
    show addPart reg whole b [] >>= _ = _
    rw [hempty]
    rfl
  · rw [parts_intercalate (by simpa using hnil)]
    intro text htext
    obtain ⟨p, hp, rfl⟩ := List.mem_map.mp htext
    exact bracketed_text (hspaced p hp) fun pair hpair =>
      hkeys pair (List.mem_filterMap.mpr ⟨p, hp, hpair⟩)

/-- There is an entry iff there is a weight. -/
theorem filterMap_weighed?_eq_nil_iff (hpairs : ∀ pair ∈ pairs ps, Readable reg pair) :
    (pairs ps).filterMap (weighed? reg) = [] ↔ ¬ ∃ pair ∈ pairs ps, 0 < pair.2 := by
  rw [List.filterMap_eq_nil_iff]
  constructor
  · rintro hnone ⟨pair, hpair, hpos⟩
    obtain ⟨block, hblock⟩ := Option.isSome_iff_exists.mp ((hpairs pair hpair).known (by omega))
    have hentry := hnone pair hpair
    rw [weighed?, if_neg (by omega), hblock] at hentry
    cases hentry
  · intro hnone pair hpair
    exact if_pos (Nat.eq_zero_of_not_pos fun hpos => hnone ⟨pair, hpair, hpos⟩)

end Bucket

/-- **Buckets are read back from their texts.** Let keys be listed with weights in their range, with
blanks around each part and empty parts anywhere. If there is a weight and the sum of the weights is
in their range, reading gives the blocks of the keys that weigh something, in order and with their
weights, and the sum; otherwise it gives the error that says which of the two fails. -/
theorem bucket_texts_read_back (reg : Registry) {ps : List Bucket.Part}
    (hspaced : ∀ p ∈ ps, p.Spaced) (hpairs : ∀ pair ∈ Bucket.pairs ps, Bucket.Readable reg pair) :
    Bucket.parse reg (Bucket.spec ps) =
      if (∃ pair ∈ Bucket.pairs ps, 0 < pair.2) ∧ Bucket.sum ps ≤ Bucket.greatestWeight then
        .ok ⟨(Bucket.pairs ps).filterMap (Bucket.weighed? reg), Bucket.sum ps⟩
      else if Bucket.sum ps ≤ Bucket.greatestWeight then .error (.noBlock (Bucket.spec ps))
      else .error (.heavySum (Bucket.spec ps)) := by
  have hnil := Bucket.filterMap_weighed?_eq_nil_iff hpairs
  rw [Bucket.parse, Bucket.foldlM_parts_spec hspaced fun pair hpair => (hpairs pair hpair).key,
    Bucket.foldlM_addPart hspaced hpairs (Nat.zero_le _)]
  simp only [Bucket.empty, Nat.zero_add, List.nil_append]
  by_cases hsum : Bucket.sum ps ≤ Bucket.greatestWeight
  · rw [if_pos hsum, if_pos hsum]
    by_cases hweight : ∃ pair ∈ Bucket.pairs ps, 0 < pair.2
    · have hne := mt hnil.mp (not_not.mpr hweight)
      rw [if_pos ⟨hweight, hsum⟩]
      exact if_neg (by simpa using hne)
    · rw [if_neg fun h => hweight h.1, hnil.mpr hweight]
      rfl
  · rw [if_neg hsum, if_neg fun h => hsum h.2, if_neg hsum]
    rfl

/-- A registry of stone and of logs that lie along an axis. -/
def RegistryConfig.mix : RegistryConfig :=
  ⟨[⟨"air", none, ∅⟩, ⟨"stone", none, ∅⟩,
    ⟨"oak_log", none, .ofList [("axis", ["y", "x", "z"])]⟩], [], none⟩

theorem RegistryConfig.mix_build : ∃ reg, Registry.build .mix = .ok reg ∧
    reg.idOf? "stone" = some 1 ∧ reg.idOf? "oak_log" = some 2 ∧
    reg.get? 2 = some ⟨2, "oak_log", [⟨"axis", ["y", "x", "z"], 2, 0⟩]⟩ := by
  refine ⟨_, rfl, ?_, Std.HashMap.getElem?_insert_self, by decide⟩
  exact Std.HashMap.getElem?_insert.trans Std.HashMap.getElem?_insert_self

theorem RegistryConfig.mix_blocks : ∃ reg, Registry.build .mix = .ok reg ∧
    reg.blockOfKey? "minecraft:stone" = some ⟨1, 0⟩ ∧
    reg.blockOfKey? "oak_log[axis=x,age=0]" = some ⟨2, 1⟩ := by
  obtain ⟨reg, hbuild, hstone, hlog, hget⟩ := RegistryConfig.mix_build
  have hbase : stripNamespace (BlockKey.parse "minecraft:stone").base = "stone" := by decide
  have hbase' : stripNamespace (BlockKey.parse "oak_log[axis=x,age=0]").base = "oak_log" := by
    decide
  refine ⟨reg, hbuild, ?_, ?_⟩
  · rw [Registry.blockOfKey?, hbase, Registry.blockOf?, hstone]
    rfl
  · rw [Registry.blockOfKey?, hbase', Registry.blockOf?, hlog, Option.map_some, hget]
    decide

/-- Two blocks, with an empty part between them and a key that weighs nothing and names no block. -/
def Bucket.mixParts : List Bucket.Part :=
  [.entry [] "minecraft:stone" 3 [], .empty [' ', '\t'], .entry [' '] "nowhere" 0 ['\n'],
    .entry [' '] "oak_log[axis=x,age=0]" 1 []]

/-- Two blocks with commas in brackets and a colon in front. -/
theorem bucket_texts_of_mix : ∃ reg, Registry.build .mix = .ok reg ∧
    (∀ p ∈ Bucket.mixParts, p.Spaced) ∧
    (∀ pair ∈ Bucket.pairs Bucket.mixParts, Bucket.Readable reg pair) ∧
    Bucket.parse reg "minecraft:stone:3, \t, nowhere:0\n, oak_log[axis=x,age=0]:1" =
      .ok ⟨[(⟨⟨1, 0⟩, none⟩, 3), (⟨⟨2, 1⟩, none⟩, 1)], 4⟩ := by
  obtain ⟨reg, hbuild, hstone, hlog⟩ := RegistryConfig.mix_blocks
  have hspaced : ∀ p ∈ Bucket.mixParts, p.Spaced := by decide
  have hlist : Bucket.pairs Bucket.mixParts =
    [("minecraft:stone", 3), ("nowhere", 0), ("oak_log[axis=x,age=0]", 1)] := rfl
  have hkeys : ∀ pair ∈ Bucket.pairs Bucket.mixParts,
    Bucket.IsKey pair.1 ∧ pair.2 ≤ Bucket.greatestWeight := by decide
  have hpairs : ∀ pair ∈ Bucket.pairs Bucket.mixParts, Bucket.Readable reg pair := by
    intro pair hpair
    refine ⟨(hkeys pair hpair).1, (hkeys pair hpair).2, fun hne => ?_⟩
    rw [hlist] at hpair
    simp only [List.mem_cons, List.not_mem_nil, or_false] at hpair
    rcases hpair with rfl | rfl | rfl
    · rw [hstone]
      rfl
    · exact absurd rfl hne
    · rw [hlog]
      rfl
  have hread := bucket_texts_read_back reg hspaced hpairs
  have hspec : Bucket.spec Bucket.mixParts =
    "minecraft:stone:3, \t, nowhere:0\n, oak_log[axis=x,age=0]:1" := by decide
  rw [hspec, if_pos (by decide)] at hread
  refine ⟨reg, hbuild, hspaced, hpairs, hread.trans ?_⟩
  simp [Bucket.sum, hlist, Bucket.weighed?, hstone, hlog]

end PlotGrid
