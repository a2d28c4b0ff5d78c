import CanaryRelease.PodTemplate.Fingerprint
import CanaryRelease.Proofs.JsonTexts

/-!
# Digests of canonical texts

A fingerprint is the digest, in hexadecimal, of the bytes of a canonical text (`Value.payload`). The
bytes give the text away and the hexadecimal digits the digest, so that two fingerprints are the
same exactly if the texts are, unless the digest collides on them (`canonicalDigest_eq_iff`).
-/

namespace CanaryRelease

/-- The message that a value's fingerprint is the digest of. -/
def Value.payload (v : Value) : List UInt8 := (String.ofList v.canonical).toUTF8.toList

/-- The digest does not take one of two messages for the other. -/
def Sha256.NoCollision (m n : List UInt8) : Prop := digest m = digest n → m = n

/-! ## Texts as bytes -/

theorem toList_loop (bytes : ByteArray) (i : Nat) (read : List UInt8) :
    ByteArray.toList.loop bytes i read = read.reverse ++ bytes.data.toList.drop i := by
  induction i, read using ByteArray.toList.loop.induct bytes with
  | case1 i read inside ih =>
    have first : bytes.data.toList.drop i = bytes.data[i] :: bytes.data.toList.drop (i + 1) := by
      rw [List.drop_eq_getElem_cons (by simpa using inside)]
      rfl
    rw [ByteArray.toList.loop, if_pos inside, ih, first]
    simp [ByteArray.get!, inside]
  | case2 i read outside =>
    rw [ByteArray.toList.loop, if_neg outside, List.drop_eq_nil_of_le (by simpa using outside),
      List.append_nil]

theorem payload_eq (v : Value) : v.payload = (String.ofList v.canonical).toUTF8.data.toList := by
  rw [Value.payload, ByteArray.toList, toList_loop, List.reverse_nil, List.nil_append,
    List.drop_zero]

theorem payload_eq_iff {a b : Value} : a.payload = b.payload ↔ a.canonical = b.canonical := by
  rw [payload_eq, payload_eq]
  constructor
  · intro h
    have bytes := ByteArray.ext (Array.toList_inj.mp h)
    exact String.ofList_inj.mp (String.toByteArray_inj.mp bytes)
  · intro h
    rw [h]

/-! ## Digests in hexadecimal -/

theorem flatMap_hex_inj {v w : List UInt32} (len : v.length = w.length)
    (h : v.flatMap (fun word => Text.hex 8 word.toNat) =
      w.flatMap (fun word => Text.hex 8 word.toNat)) : v = w := by
  induction v generalizing w with
  | nil => exact (List.length_eq_zero_iff.mp len.symm).symm
  | cons a v ih =>
    cases w with
    | nil => cases len
    | cons b w =>
      obtain ⟨first, rest⟩ := List.append_inj h (by simp)
      have below (word : UInt32) : word.toNat < 16 ^ 8 := word.toNat_lt
      have word : a = b := UInt32.toNat_inj.mp (Text.hex_inj (below a) (below b) first)
      rw [word, ih (Nat.succ.inj len) rest]

theorem toHex_inj {s t : Sha256.State} (h : s.toHex = t.toHex) : s = t := by
  have words : [s.a, s.b, s.c, s.d, s.e, s.f, s.g, s.h] =
      [t.a, t.b, t.c, t.d, t.e, t.f, t.g, t.h] := flatMap_hex_inj rfl (String.ofList_inj.mp h)
  cases s
  cases t
  simpa using words

theorem toHex_ne_empty (s : Sha256.State) : s.toHex ≠ "" := by
  intro h
  have len := congrArg (fun text : String => text.toList.length) h
  simp [Sha256.State.toHex] at len

/-- Without a collision fingerprints are the same if and only if the messages are. -/
theorem canonicalDigest_eq_iff {a b : Value} (h : Sha256.NoCollision a.payload b.payload) :
    a.canonicalDigest = b.canonicalDigest ↔ a.payload = b.payload := by
  -- the digits of a digest tell the digest, and without a collision that tells the message
  constructor
  · exact fun same => h (toHex_inj same)
  · intro same
    exact congrArg (fun m => (Sha256.digest m).toHex) same

theorem Value.fingerprint_eq_ok {v : Value} {digest : String} :
    v.fingerprint = .ok digest ↔ v.isOrderable = true ∧ digest = v.canonicalDigest := by
  unfold Value.fingerprint
  constructor
  · intro h
    split at h
    · rename_i orderable
      exact ⟨orderable, (Except.ok.inj h).symm⟩
    · cases h
  · rintro ⟨orderable, rfl⟩
    exact if_pos orderable

/-- Two values have one fingerprint, and not by a collision. -/
structure Value.SameDigest (a b : Value) : Prop where
  same : ∃ digest, a.fingerprint = .ok digest ∧ b.fingerprint = .ok digest
  noCollision : Sha256.NoCollision a.payload b.payload

theorem Value.SameDigest.canonical {a b : Value} (h : a.SameDigest b) :
    a.canonical = b.canonical := by
  obtain ⟨digest, ha, hb⟩ := h.same
  obtain ⟨-, rfl⟩ := fingerprint_eq_ok.mp ha
  obtain ⟨-, same⟩ := fingerprint_eq_ok.mp hb
  exact payload_eq_iff.mp ((canonicalDigest_eq_iff h.noCollision).mp same)

theorem canonicalDigest_ne_empty (v : Value) : v.canonicalDigest ≠ "" := toHex_ne_empty _

end CanaryRelease
