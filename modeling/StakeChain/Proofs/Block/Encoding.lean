/-
# What is hashed determines the block

The preimage of a block is read in one way only.  Words take eight bytes and a text stands
behind its length, so each of them can be split off the front of any bytes that begin with it
(`Block.textBytes_append_inj`); transactions follow one another, none of them empty, so a list
of them can be told apart as well (`Block.flatMap_transactionBytes_inj`).

Two blocks with the same preimage agree in everything but the hash they carry
(`Block.preimage_inj`).  A length is kept in 64 bits, so the texts have to be shorter than `2 ^ 64`
bytes (`Block.Fits`).

With its transactions behind their count, a preimage also says where it ends: what follows it can be
split off (`Block.sameContent_of_preimage_append_eq`), so no preimage is a proper beginning of
another.

Main statement: `Block.encoding_self_delimiting`.
-/
import StakeChain.Block.Basic

namespace StakeChain.Block

/-! ## 1. Texts that fit their length -/

/-- The length of the text in bytes fits a 64-bit word. -/
def TextFits (s : String) : Prop := (Text.bytes s).length < UInt64.size

instance (s : String) : Decidable (TextFits s) :=
  inferInstanceAs (Decidable ((Text.bytes s).length < UInt64.size))

/-- Every text that is hashed with the block fits. -/
def Fits (b : Block) : Prop :=
  TextFits b.previousHash ∧ TextFits b.producer ∧
    ∀ tx ∈ b.transactions, TextFits tx.txid ∧ TextFits tx.payload

instance (b : Block) : Decidable b.Fits :=
  inferInstanceAs (Decidable (TextFits b.previousHash ∧ TextFits b.producer ∧
    ∀ tx ∈ b.transactions, TextFits tx.txid ∧ TextFits tx.payload))

/-! ## 2. Splitting fields off the front -/

/-- A word is split off. -/
theorem word64_append_inj {v w : UInt64} {rest rest' : List UInt8}
    (h : Digest.word64 v ++ rest = Digest.word64 w ++ rest') : v = w ∧ rest = rest' := by
  obtain ⟨hword, hrest⟩ := List.append_inj h (by simp)
  exact ⟨Digest.word64_inj hword, hrest⟩

/-- **A text is split off**: its length says where it ends. -/
theorem textBytes_append_inj {s t : String} {rest rest' : List UInt8} (hs : TextFits s)
    (ht : TextFits t) (h : textBytes s ++ rest = textBytes t ++ rest') : s = t ∧ rest = rest' := by
  simp only [textBytes, List.append_assoc] at h
  obtain ⟨hlength, h⟩ := List.append_inj h (by simp)
  have hs : (Text.bytes s).length < Digest.capacity 8 := hs
  have ht : (Text.bytes t).length < Digest.capacity 8 := ht
  have hlength : (Text.bytes s).length = (Text.bytes t).length :=
    Digest.bigEndian_inj hs ht hlength
  obtain ⟨hbytes, hrest⟩ := List.append_inj h hlength
  exact ⟨Text.bytes_inj.mp hbytes, hrest⟩

theorem transactionBytes_append_inj {x y : Transaction} {rest rest' : List UInt8}
    (hx : TextFits x.txid ∧ TextFits x.payload) (hy : TextFits y.txid ∧ TextFits y.payload)
    (h : transactionBytes x ++ rest = transactionBytes y ++ rest') : x = y ∧ rest = rest' := by
  simp only [transactionBytes, List.append_assoc] at h
  obtain ⟨htxid, h⟩ := textBytes_append_inj hx.1 hy.1 h
  obtain ⟨hpayload, hrest⟩ := textBytes_append_inj hx.2 hy.2 h
  obtain ⟨_, _⟩ := x
  obtain ⟨_, _⟩ := y
  exact ⟨by rw [Transaction.mk.injEq]; exact ⟨htxid, hpayload⟩, hrest⟩

/-- A transaction takes at least the bytes of its two lengths. -/
theorem transactionBytes_ne_nil (x : Transaction) : transactionBytes x ≠ [] := by
  intro h
  have := congrArg List.length h
  simp [transactionBytes, textBytes] at this

/-- **The bytes of a list of transactions determine the list**, without its count. -/
theorem flatMap_transactionBytes_inj : ∀ {xs ys : List Transaction},
    (∀ x ∈ xs, TextFits x.txid ∧ TextFits x.payload) →
    (∀ y ∈ ys, TextFits y.txid ∧ TextFits y.payload) →
    xs.flatMap transactionBytes = ys.flatMap transactionBytes → xs = ys
  | [], [], _, _, _ => rfl
  | [], y :: _, _, _, h => by
    rw [List.flatMap_nil, List.flatMap_cons] at h
    exact absurd (List.append_eq_nil_iff.mp h.symm).1 (transactionBytes_ne_nil y)
  | x :: _, [], _, _, h => by
    rw [List.flatMap_nil, List.flatMap_cons] at h
    exact absurd (List.append_eq_nil_iff.mp h).1 (transactionBytes_ne_nil x)
  | x :: xs, y :: ys, hx, hy, h => by
    rw [List.flatMap_cons, List.flatMap_cons] at h
    obtain ⟨hxy, hrest⟩ :=
      transactionBytes_append_inj (hx x List.mem_cons_self) (hy y List.mem_cons_self) h
    have htail : xs = ys := flatMap_transactionBytes_inj
      (fun z hz => hx z (List.mem_cons_of_mem _ hz))
      (fun z hz => hy z (List.mem_cons_of_mem _ hz)) hrest
    rw [hxy, htail]

/-! ## 3. Preimages -/

/-- The fixed fields are split off; what is left are the transactions. -/
theorem preimage_append_inj {a b : Block} {rest rest' : List UInt8} (ha : a.Fits) (hb : b.Fits)
    (h : a.preimage ++ rest = b.preimage ++ rest') :
    a.index = b.index ∧ a.timestamp = b.timestamp ∧ a.previousHash = b.previousHash ∧
      a.producer = b.producer ∧
      Digest.bigEndian 8 a.transactions.length = Digest.bigEndian 8 b.transactions.length ∧
      a.transactions.flatMap transactionBytes ++ rest =
        b.transactions.flatMap transactionBytes ++ rest' := by
  simp only [preimage, List.append_assoc] at h
  obtain ⟨hindex, h⟩ := word64_append_inj h
  obtain ⟨htimestamp, h⟩ := word64_append_inj h
  obtain ⟨hprevious, h⟩ := textBytes_append_inj ha.1 hb.1 h
  obtain ⟨hproducer, h⟩ := textBytes_append_inj ha.2.1 hb.2.1 h
  obtain ⟨hcount, h⟩ := List.append_inj h (by simp)
  have htimestamp : a.timestamp = b.timestamp :=
    Int64.toBitVec.inj (congrArg UInt64.toBitVec htimestamp)
  exact ⟨hindex, htimestamp, hprevious, hproducer, hcount, h⟩

/-- **Blocks with the same preimage agree in everything but the hash they carry.** -/
theorem preimage_inj {a b : Block} (ha : a.Fits) (hb : b.Fits) (h : a.preimage = b.preimage) :
    a = { b with hash := a.hash } := by
  have h : a.preimage ++ [] = b.preimage ++ [] := by rw [h]
  obtain ⟨hindex, htimestamp, hprevious, hproducer, -, hbytes⟩ := preimage_append_inj ha hb h
  rw [List.append_nil, List.append_nil] at hbytes
  have htransactions : a.transactions = b.transactions :=
    flatMap_transactionBytes_inj ha.2.2 hb.2.2 hbytes
  rw [← hindex, ← htimestamp, ← hprevious, ← hproducer, ← htransactions]

/-- A digest has an even number of digits, so it is never the hash that a first block names. -/
theorem digest_ne_genesisPreviousHash (b : Block) : b.digest ≠ genesisPreviousHash := by
  intro h
  have hdigits : Text.hexDigits (Digest.Sha256.digest b.preimage) = ['0'] := String.ofList_inj.mp h
  cases hbytes : Digest.Sha256.digest b.preimage with
  | nil => simp [hbytes, Text.hexDigits] at hdigits
  | cons x rest => simp [hbytes, Text.hexDigits, Text.hexPair] at hdigits

/-! ## 4. Where a preimage ends -/

/-- **A list of transactions is split off**, once its count is known. -/
theorem flatMap_transactionBytes_append_inj {rest rest' : List UInt8} :
    ∀ {xs ys : List Transaction},
      (∀ x ∈ xs, TextFits x.txid ∧ TextFits x.payload) →
      (∀ y ∈ ys, TextFits y.txid ∧ TextFits y.payload) → xs.length = ys.length →
      xs.flatMap transactionBytes ++ rest = ys.flatMap transactionBytes ++ rest' →
      xs = ys ∧ rest = rest'
  | [], [], _, _, _, h => ⟨rfl, h⟩
  | [], _ :: _, _, _, hlength, _ => absurd hlength.symm (Nat.succ_ne_zero _)
  | _ :: _, [], _, _, hlength, _ => absurd hlength (Nat.succ_ne_zero _)
  | x :: xs, y :: ys, hx, hy, hlength, h => by
    rw [List.flatMap_cons, List.flatMap_cons, List.append_assoc, List.append_assoc] at h
    obtain ⟨hxy, h⟩ :=
      transactionBytes_append_inj (hx x List.mem_cons_self) (hy y List.mem_cons_self) h
    obtain ⟨htail, hrest⟩ := flatMap_transactionBytes_append_inj
      (fun z hz => hx z (List.mem_cons_of_mem _ hz))
      (fun z hz => hy z (List.mem_cons_of_mem _ hz)) (Nat.succ.inj hlength) h
    rw [hxy, htail]
    exact ⟨rfl, hrest⟩

/-- Agreement in everything but the hash carried. -/
structure SameContent (a b : Block) : Prop where
  index : a.index = b.index
  timestamp : a.timestamp = b.timestamp
  previousHash : a.previousHash = b.previousHash
  producer : a.producer = b.producer
  transactions : a.transactions = b.transactions

theorem SameContent.preimage_eq {a b : Block} (h : a.SameContent b) : a.preimage = b.preimage := by
  rw [preimage, h.index, h.timestamp, h.previousHash, h.producer, h.transactions, preimage]

/-- **A block is split off**: what follows its preimage is not taken for a part of it. -/
theorem sameContent_of_preimage_append_eq {a b : Block} {rest rest' : List UInt8} (ha : a.Fits)
    (hb : b.Fits) (hcount : a.transactions.length < UInt64.size)
    (hcount' : b.transactions.length < UInt64.size)
    (h : a.preimage ++ rest = b.preimage ++ rest') : a.SameContent b ∧ rest = rest' := by
  obtain ⟨hindex, htimestamp, hprevious, hproducer, hcounts, hbytes⟩ :=
    preimage_append_inj ha hb h
  have hcount : a.transactions.length < Digest.capacity 8 := hcount
  have hcount' : b.transactions.length < Digest.capacity 8 := hcount'
  have hlength : a.transactions.length = b.transactions.length :=
    Digest.bigEndian_inj hcount hcount' hcounts
  obtain ⟨htransactions, hrest⟩ :=
    flatMap_transactionBytes_append_inj ha.2.2 hb.2.2 hlength hbytes
  exact ⟨⟨hindex, htimestamp, hprevious, hproducer, htransactions⟩, hrest⟩

/-- **What is hashed of a block is injective and says where it ends.**  Take two blocks with texts
that fit their lengths and transactions that fit their count.  If the bytes that are hashed for the
one are those of the other, or only the beginning of them, then the blocks agree in everything but
the hash that they carry.  And blocks that agree so far, whatever they are, have the same hash by
their content. -/
theorem encoding_self_delimiting (a b : Block) :
    (a.Fits → b.Fits →
        a.transactions.length < UInt64.size → b.transactions.length < UInt64.size →
        a.preimage <+: b.preimage ∨ b.preimage <+: a.preimage → a.SameContent b) ∧
      (a.SameContent b → a.preimage = b.preimage ∧ a.digest = b.digest) := by
  constructor
  · intro ha hb hcount hcount' hprefix
    rcases hprefix with ⟨rest, hrest⟩ | ⟨rest, hrest⟩
    · rw [← List.append_nil b.preimage] at hrest
      exact (sameContent_of_preimage_append_eq ha hb hcount hcount' hrest).1
    · rw [← List.append_nil a.preimage] at hrest
      exact (sameContent_of_preimage_append_eq ha hb hcount hcount' hrest.symm).1
  · intro h
    have hpreimage : a.preimage = b.preimage := h.preimage_eq
    exact ⟨hpreimage, congrArg Digest.Sha256.hex hpreimage⟩

/-- A block with a payment, and the same block with a hash that it was not sealed with. -/
theorem encoding_self_delimiting_with_payment :
    let a := (genesis 0).next 10 [.ofPayload "pay bob 5"] "A"
    let b := { a with hash := "0" }
    a.Fits ∧ b.Fits ∧
      a.transactions.length < UInt64.size ∧ b.transactions.length < UInt64.size ∧
      a.preimage <+: b.preimage ∧ a.SameContent b ∧ a.digest = b.digest := by
  intro a b
  have ha : a.Fits := by decide +kernel
  have hb : b.Fits := by decide +kernel
  have hcount : a.transactions.length < UInt64.size := by decide +kernel
  have hbytes : a.preimage = b.preimage := SameContent.preimage_eq ⟨rfl, rfl, rfl, rfl, rfl⟩
  have hprefix : a.preimage <+: b.preimage := ⟨[], (List.append_nil _).trans hbytes⟩
  obtain ⟨hsame, hhash⟩ := encoding_self_delimiting a b
  have hcontent := hsame ha hb hcount hcount (Or.inl hprefix)
  exact ⟨ha, hb, hcount, hcount, hprefix, hcontent, (hhash hcontent).2⟩

end StakeChain.Block
