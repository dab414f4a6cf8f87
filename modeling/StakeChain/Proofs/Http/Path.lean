/-
# Reading a spelled path

A path that spells some texts, one a segment (`Http.Spelled`), is read in two steps.  The first
leaves the escapes of `%`, `/` and `+` in place, and what it makes of a segment is still to be
read (`HalfRead`): it holds no slash, so the split finds the segments again, and the second step
gives the text.  Only a text without those three characters is there already after the first
step, and that is where routes with fixed segments are compared.

Main statement: `Http.segments?_of_spelled`.
-/
import Mathlib.Data.List.Forall2
import Mathlib.Data.List.TakeWhile
import StakeChain.Http.Path
import StakeChain.Proofs.Text.Percent

namespace StakeChain.Http

open Text (utf8 Spells Escapes)
open Text.Percent (Reads)

/-! ## 1. One segment -/

/-- The escape of this character is read in the second step only. -/
def IsSeparator (c : Char) : Prop := c = '%' ∨ c = '/' ∨ c = '+'

instance (c : Char) : Decidable (IsSeparator c) :=
  inferInstanceAs (Decidable (c = '%' ∨ c = '/' ∨ c = '+'))

/-- **A segment that is read up to its separators**: it does not split, the second step makes the
text of it, and a text without separators is there already. -/
structure HalfRead (segment text : List Char) : Prop where
  read : Reads (fun _ => false) (utf8 segment) (utf8 text)
  whole : '/' ∉ segment
  same : (∀ c ∈ text, ¬ IsSeparator c) → segment = text

theorem HalfRead.append {early late early' late' : List Char} (h : HalfRead early early')
    (h' : HalfRead late late') : HalfRead (early ++ late) (early' ++ late') := by
  refine ⟨?_, ?_, ?_⟩
  · simpa [utf8] using h.read.append h'.read
  · simp [h.whole, h'.whole]
  · intro hnone
    rw [h.same fun c hc => hnone c (List.mem_append_left _ hc),
      h'.same fun c hc => hnone c (List.mem_append_right _ hc)]

/-- The bytes that the first step keeps escaped are those of the three characters. -/
theorem isSeparator_iff {c : Char} {b : UInt8} (hb : b ∈ String.utf8EncodeChar c) :
    isSeparator b = true ↔ IsSeparator c := by
  have hbyte : isSeparator b = true ↔ b.toNat = 0x25 ∨ b.toNat = 0x2F ∨ b.toNat = 0x2B := by
    simp [isSeparator, ← UInt8.toNat_inj, or_assoc]
  have hchar : IsSeparator c ↔ c.toNat = 0x25 ∨ c.toNat = 0x2F ∨ c.toNat = 0x2B := by
    simp [IsSeparator, ← Char.toNat_inj]
  rw [hbyte, hchar]
  constructor
  · intro h
    rw [← Text.toNat_of_mem_utf8EncodeChar hb (by omega)]
    exact h
  · intro h
    rw [Text.utf8EncodeChar_of_ascii (by omega), List.mem_singleton] at hb
    rw [hb, UInt8.toNat_ofNat_of_lt' (show c.toNat < 256 by omega)]
    exact h

/-- A character other than `%` and `/` stands for itself. -/
theorem HalfRead.single {c : Char} (hescape : c.toNat ≠ 0x25) (hslash : c.toNat ≠ 0x2F) :
    HalfRead [c] [c] := by
  refine ⟨Reads.char hescape, ?_, fun _ => rfl⟩
  intro hmem
  rw [← List.mem_singleton.mp hmem] at hslash
  exact hslash rfl

/-- A text without separators is what it reads as. -/
theorem HalfRead.refl {text : List Char} (h : ∀ c ∈ text, ¬ IsSeparator c) : HalfRead text text := by
  induction text with
  | nil => exact ⟨.nil, List.not_mem_nil, fun _ => rfl⟩
  | cons c text ih =>
    have hc := h c List.mem_cons_self
    have hself : HalfRead [c] [c] := by
      refine HalfRead.single (fun hcode => hc ?_) (fun hcode => hc ?_)
      · exact Or.inl (Char.toNat_inj.mp hcode)
      · exact Or.inr (Or.inl (Char.toNat_inj.mp hcode))
    exact hself.append (ih fun d hd => h d (List.mem_cons_of_mem c hd))

theorem IsSeparator.toNat_lt {c : Char} (h : IsSeparator c) : c.toNat < 0x80 := by
  rcases h with rfl | rfl | rfl <;> decide

/-- The escape of a separator, which the second step reads. -/
theorem HalfRead.escape {c first second : Char} {h l : Nat} (hc : IsSeparator c)
    (hh : Text.hexValue? first.toNat = some h) (hl : Text.hexValue? second.toNat = some l)
    (hb : (UInt8.ofNat c.toNat).toNat = 16 * h + l) : HalfRead ['%', first, second] [c] := by
  refine ⟨?_, ?_, ?_⟩
  · have hbytes : utf8 [c] = [UInt8.ofNat c.toNat] := by
      rw [utf8, List.flatMap_singleton, Text.utf8EncodeChar_of_ascii hc.toNat_lt]
    rw [hbytes]
    exact Reads.escape hh hl hb rfl
  · intro hslash
    simp only [List.mem_cons, List.not_mem_nil, or_false] at hslash
    rcases hslash with hslash | rfl | rfl
    · cases hslash
    · exact (Text.hexValue?_bounds hh).2.2.1 rfl
    · exact (Text.hexValue?_bounds hl).2.2.1 rfl
  · intro hnone
    exact absurd hc (hnone c (List.mem_singleton_self c))

/-- **One escaped character after the first step.** -/
theorem exists_halfRead_of_escapes {c : Char} {escapes : List Char}
    (h : Escapes escapes (String.utf8EncodeChar c)) :
    ∃ segment, Reads isSeparator (utf8 escapes) (utf8 segment) ∧ HalfRead segment [c] := by
  by_cases hc : IsSeparator c
  · -- the escape stays as it is
    have hone := Text.utf8EncodeChar_of_ascii hc.toNat_lt
    have hkept : isSeparator (UInt8.ofNat c.toNat) = true := by
      refine (isSeparator_iff ?_).mpr hc
      rw [hone]
      exact List.mem_singleton_self _
    rw [hone] at h
    cases h with
    | @cons first second _ _ _ _ _ hh hl hb hrest =>
      cases hrest
      exact ⟨['%', first, second], Reads.keep hh hl hb hkept, HalfRead.escape hc hh hl hb⟩
  · have hkept : ∀ b ∈ String.utf8EncodeChar c, isSeparator b = false := by
      intro b hb
      rw [← Bool.not_eq_true, isSeparator_iff hb]
      exact hc
    have hread := Reads.escapes h hkept
    refine ⟨[c], ?_, HalfRead.refl fun d hd => List.mem_singleton.mp hd ▸ hc⟩
    rwa [utf8, utf8, List.flatMap_singleton]

/-- **The first step reads a spelling up to its separators.** -/
theorem exists_halfRead {written text : List Char} (h : Spells written text) :
    ∃ segment, Reads isSeparator (utf8 written) (utf8 segment) ∧ HalfRead segment text := by
  induction h with
  | nil => exact ⟨[], .nil, HalfRead.refl (by simp)⟩
  | @plain c written text hplain _ ih =>
    obtain ⟨segment, hread, hhalf⟩ := ih
    obtain ⟨-, hescape, hslash, -⟩ := Text.isPlain_bounds hplain
    refine ⟨[c] ++ segment, ?_, (HalfRead.single hescape hslash).append hhalf⟩
    simpa [utf8] using (Reads.char hescape).append hread
  | @escaped c escapes written text hescapes _ ih =>
    obtain ⟨segment, hread, hhalf⟩ := ih
    obtain ⟨first, hfirst, hsingle⟩ := exists_halfRead_of_escapes hescapes
    refine ⟨first ++ segment, ?_, hsingle.append hhalf⟩
    simpa [utf8] using hfirst.append hread

/-- **The second step gives the text.** -/
theorem HalfRead.decodeSegment_eq {segment text : List Char} (h : HalfRead segment text) :
    decodeSegment (String.ofList segment) = String.ofList text := by
  have hbytes : Text.bytes (String.ofList segment) = utf8 segment := by
    rw [Text.bytes_eq_flatMap, String.toList_ofList]
  rw [decodeSegment, hbytes, Text.Percent.decodeAll, h.read.decode, Text.ofBytes_flatMap]

theorem HalfRead.ne_nil {segment text : List Char} (h : HalfRead segment text) (htext : text ≠ []) :
    segment ≠ [] := by
  rintro rfl
  have hnone : String.ofList [] = String.ofList text := h.decodeSegment_eq
  exact htext (String.ofList_inj.mp hnone).symm

/-! ## 2. Splitting at slashes -/

/-- Pieces that are each followed by a separator are found again, with an empty one at the end. -/
theorem splitOn_flatMap {α : Type} [DecidableEq α] {separator : α} {pieces : List (List α)}
    (h : ∀ piece ∈ pieces, separator ∉ piece) :
    (pieces.flatMap (· ++ [separator])).splitOn separator = pieces ++ [[]] := by
  induction pieces with
  | nil => rfl
  | cons piece pieces ih =>
    rw [List.flatMap_cons, List.append_assoc, List.singleton_append,
      List.splitOn_append_cons_self_of_not_mem (h piece List.mem_cons_self),
      ih fun p hp => h p (List.mem_cons_of_mem _ hp)]
    rfl

/-- A path whose first reading gives these pieces, each between slashes. -/
theorem segments?_eq_some {path : List Char} {pieces : List (List Char)}
    (hpath : decodePath path = '/' :: pieces.flatMap (· ++ ['/']))
    (hwhole : ∀ piece ∈ pieces, '/' ∉ piece) (hnonempty : [] ∉ pieces) :
    segments? path = some (pieces.map String.ofList) := by
  have hsplit : (decodePath path).splitOn '/' = [] :: (pieces ++ [[]]) := by
    rw [hpath, ← splitOn_flatMap hwhole]
    exact List.splitOn_append_cons_self_of_not_mem List.not_mem_nil _
  unfold segments?
  rw [hsplit]
  simp [hnonempty]

/-! ## 3. Paths -/

/-- Spellings of texts, each with a slash behind it. -/
inductive SpellsAll : List Char → List String → Prop where
  | nil : SpellsAll [] []
  | cons {written rest : List Char} {text : String} {texts : List String} :
      Spells written text.toList → SpellsAll rest texts →
      SpellsAll (written ++ '/' :: rest) (text :: texts)

/-- **A path that spells these texts**, one a segment, between slashes. -/
def Spelled (path : String) (texts : List String) : Prop :=
  ∃ written, path.toList = '/' :: written ∧ SpellsAll written texts

/-- Every list of texts is spelled by some path. -/
theorem exists_spelled (texts : List String) : ∃ path, Spelled path texts := by
  have hall : ∃ written, SpellsAll written texts := by
    induction texts with
    | nil => exact ⟨[], .nil⟩
    | cons text texts ih =>
      obtain ⟨rest, hrest⟩ := ih
      exact ⟨_, .cons (Text.spells_escape text.toList) hrest⟩
  obtain ⟨written, hwritten⟩ := hall
  exact ⟨String.ofList ('/' :: written), written, String.toList_ofList, hwritten⟩

/-- Nothing in a spelling ends the path. -/
theorem SpellsAll.not_mem {written : List Char} {texts : List String} (h : SpellsAll written texts)
    {c : Char} (hc : c ∈ written) : c.toNat ≠ 0x3F ∧ c.toNat ≠ 0x23 := by
  induction h with
  | nil => simp at hc
  | cons hspells _ ih =>
    rcases List.mem_append.mp hc with hc | hc
    · exact (hspells.not_mem hc).2
    · rcases List.mem_cons.mp hc with rfl | hc
      · decide
      · exact ih hc

theorem splitTarget_of_spelled {path : String} {texts : List String} (h : Spelled path texts) :
    splitTarget path = (path.toList, []) := by
  obtain ⟨written, hpath, hwritten⟩ := h
  have hends : ∀ c ∈ path.toList, c ≠ '?' ∧ c ≠ '#' := by
    rw [hpath]
    intro c hc
    rcases List.mem_cons.mp hc with rfl | hc
    · decide
    · obtain ⟨hquery, hfragment⟩ := hwritten.not_mem hc
      exact ⟨by rintro rfl; exact hquery rfl, by rintro rfl; exact hfragment rfl⟩
  have htarget : path.toList.takeWhile (· ≠ '#') = path.toList := by
    rw [List.takeWhile_eq_self_iff]
    intro c hc
    exact decide_eq_true (hends c hc).2
  have hquery : ∀ c ∈ path.toList, decide (c ≠ '?') = true := by
    intro c hc
    exact decide_eq_true (hends c hc).1
  unfold splitTarget
  simp only [htarget, List.takeWhile_eq_self_iff.mpr hquery, List.dropWhile_eq_nil_iff.mpr hquery,
    List.drop_nil]

/-- **The first step finds the segments again**, each read up to its separators. -/
theorem SpellsAll.exists_halfRead {written : List Char} {texts : List String}
    (h : SpellsAll written texts) :
    ∃ pieces : List (List Char),
      Reads isSeparator (utf8 written) (utf8 (pieces.flatMap (· ++ ['/']))) ∧
        List.Forall₂ (fun piece text => HalfRead piece text.toList) pieces texts := by
  induction h with
  | nil => exact ⟨[], .nil, .nil⟩
  | @cons written rest text texts hspells _ ih =>
    obtain ⟨piece, hpiece, hhalf⟩ := Http.exists_halfRead hspells
    obtain ⟨pieces, hpieces, hhalves⟩ := ih
    refine ⟨piece :: pieces, ?_, .cons hhalf hhalves⟩
    have hslash : Reads isSeparator (utf8 ['/']) (utf8 ['/']) := Reads.char (by decide)
    simpa [utf8] using hpiece.append (hslash.append hpieces)

theorem exists_of_mem_of_forall₂ {α β : Type} {R : α → β → Prop} {as : List α} {bs : List β}
    (h : List.Forall₂ R as bs) {a : α} (ha : a ∈ as) : ∃ b ∈ bs, R a b := by
  induction h with
  | nil => simp at ha
  | @cons a' b as bs hab _ ih =>
    rcases List.mem_cons.mp ha with rfl | ha
    · exact ⟨b, List.mem_cons_self, hab⟩
    · obtain ⟨b', hb', hab'⟩ := ih ha
      exact ⟨b', List.mem_cons_of_mem b hb', hab'⟩

/-- **A spelled path is split into segments that are half read**, if no text is empty. -/
theorem segments?_of_spelled {path : String} {texts : List String} (h : Spelled path texts)
    (hnonempty : "" ∉ texts) :
    ∃ segments, segments? path.toList = some segments ∧
      List.Forall₂ (fun segment text => HalfRead segment.toList text.toList) segments texts := by
  obtain ⟨written, hpath, hwritten⟩ := h
  obtain ⟨pieces, hreads, hhalves⟩ := hwritten.exists_halfRead
  have hdecoded : decodePath path.toList = '/' :: pieces.flatMap (· ++ ['/']) := by
    have hslash : Reads isSeparator (utf8 ['/']) (utf8 ['/']) := Reads.char (by decide)
    have hall : Reads isSeparator (utf8 path.toList)
        (utf8 ('/' :: pieces.flatMap (· ++ ['/']))) := by
      rw [hpath]
      simpa [utf8] using hslash.append hreads
    rw [decodePath, String.ofList_toList, Text.bytes_eq_flatMap, hall.decode,
      Text.ofBytes_flatMap]
  have hwhole : ∀ piece ∈ pieces, '/' ∉ piece := by
    intro piece hpiece
    obtain ⟨text, -, hhalf⟩ := exists_of_mem_of_forall₂ hhalves hpiece
    exact hhalf.whole
  have hfull : [] ∉ pieces := by
    intro hempty
    obtain ⟨text, htext, hhalf⟩ := exists_of_mem_of_forall₂ hhalves hempty
    refine hhalf.ne_nil (fun hnil => ?_) rfl
    rw [String.toList_eq_nil_iff] at hnil
    exact hnonempty (hnil ▸ htext)
  refine ⟨pieces.map String.ofList, segments?_eq_some hdecoded hwhole hfull, ?_⟩
  rw [List.forall₂_map_left_iff]
  simpa using hhalves

/-- A text that the first step reads in full. -/
def isFixed (text : String) : Bool := text.toList.all fun c => !decide (IsSeparator c)

theorem isFixed_iff {text : String} :
    isFixed text = true ↔ ∀ c ∈ text.toList, ¬ IsSeparator c := by
  simp [isFixed]

/-- Fixed texts can be compared before the second step. -/
theorem HalfRead.eq_iff {segment text fixed : String} (h : HalfRead segment.toList text.toList)
    (hfixed : isFixed fixed = true) : segment = fixed ↔ text = fixed := by
  rw [isFixed_iff] at hfixed
  constructor
  · rintro rfl
    have hself := (HalfRead.refl hfixed).decodeSegment_eq
    exact String.toList_inj.mp (String.ofList_inj.mp (h.decodeSegment_eq.symm.trans hself))
  · rintro rfl
    exact String.toList_inj.mp (h.same hfixed)

theorem eq_of_halfRead_fixed {segments texts : List String}
    (h : List.Forall₂ (fun segment text => HalfRead segment.toList text.toList) segments texts)
    (hfixed : ∀ text ∈ texts, isFixed text = true) : segments = texts := by
  induction h with
  | nil => rfl
  | @cons segment text segments texts hhalf _ ih =>
    rw [(hhalf.eq_iff (hfixed text List.mem_cons_self)).mpr rfl,
      ih fun t ht => hfixed t (List.mem_cons_of_mem text ht)]

/-- **A path with one name in it**: the segments around the name are what they spell, and the name
is read from its own. -/
theorem segments?_of_named {path collection name : String} {actions : List String}
    (h : Spelled path (collection :: name :: actions)) (hname : name ≠ "")
    (hcollection : isFixed collection = true ∧ collection ≠ "")
    (hactions : ∀ action ∈ actions, isFixed action = true ∧ action ≠ "") :
    ∃ segment, segments? (splitTarget path).1 = some (collection :: segment :: actions) ∧
      decodeSegment segment = name ∧
        ∀ fixed, isFixed fixed = true → (segment = fixed ↔ name = fixed) := by
  have hnonempty : "" ∉ collection :: name :: actions := by
    simp only [List.mem_cons, not_or]
    exact ⟨hcollection.2.symm, hname.symm, fun hempty => (hactions "" hempty).2 rfl⟩
  obtain ⟨segments, hsegments, hhalves⟩ := segments?_of_spelled h hnonempty
  rw [splitTarget_of_spelled h]
  obtain ⟨first, rest, hfirst, hrest, rfl⟩ := List.forall₂_cons_right_iff.mp hhalves
  obtain ⟨segment, others, hsegment, hothers, rfl⟩ := List.forall₂_cons_right_iff.mp hrest
  obtain rfl : first = collection := (hfirst.eq_iff hcollection.1).mpr rfl
  obtain rfl : others = actions :=
    eq_of_halfRead_fixed hothers fun action haction => (hactions action haction).1
  refine ⟨segment, hsegments, ?_, fun fixed hfixed => hsegment.eq_iff hfixed⟩
  simpa using hsegment.decodeSegment_eq

end StakeChain.Http
