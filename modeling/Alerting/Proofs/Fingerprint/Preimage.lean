import Alerting.Event.Basic
import Alerting.Proofs.Text.Basic
import Alerting.Proofs.Text.Map
import Mathlib.Algebra.Group.Nat.Defs

/-!
# What a fingerprint tells

A label set is written so that it can be read back: the byte that closes each name and each value
occurs in no text. So what is hashed for two lists of labels is the same exactly if both have the
same last value under each name, whatever their order and whatever is overwritten. Fingerprints of
different label sets are therefore the same only if the first eight bytes of their digests are.
-/

namespace Alerting

open Text

namespace Fingerprint

/-! ## What is hashed -/

theorem terminator_not_mem_bytes (cs : List Char) : terminator ∉ bytes cs := by
  intro h
  obtain ⟨c, -, hc⟩ := List.mem_flatMap.1 h
  rcases toNat_of_mem_utf8EncodeChar hc with ⟨-, hlt⟩ | ⟨-, hlt⟩ <;> exact absurd hlt (by decide)

/-- What stands in front of the first terminator is known, and so is what stands behind it. -/
theorem append_terminator_inj {xs ys rest rest' : List UInt8} (hxs : terminator ∉ xs)
    (hys : terminator ∉ ys) (h : xs ++ terminator :: rest = ys ++ terminator :: rest') :
    xs = ys ∧ rest = rest' := by
  induction xs generalizing ys with
  | nil =>
    cases ys with
    | nil => exact ⟨rfl, (List.cons.inj h).2⟩
    | cons y ys => exact absurd ((List.cons.inj h).1 ▸ List.mem_cons_self) hys
  | cons x xs ih =>
    cases ys with
    | nil => exact absurd ((List.cons.inj h).1 ▸ List.mem_cons_self) hxs
    | cons y ys =>
      obtain ⟨rfl, htail⟩ := List.cons.inj h
      obtain ⟨rfl, hrest⟩ := ih (mt (List.mem_cons_of_mem x) hxs) (mt (List.mem_cons_of_mem x) hys)
        htail
      exact ⟨rfl, hrest⟩

theorem closed_append_inj {s t : String} {rest rest' : List UInt8}
    (h : closed s ++ rest = closed t ++ rest') : s = t ∧ rest = rest' := by
  simp only [closed, List.append_assoc, List.singleton_append] at h
  obtain ⟨hbytes, hrest⟩ :=
    append_terminator_inj (terminator_not_mem_bytes _) (terminator_not_mem_bytes _) h
  exact ⟨String.toList_inj.1 (bytes_injective hbytes), hrest⟩

theorem closed_ne_nil (s : String) : closed s ≠ [] := by simp [closed]

theorem flatMap_closed_inj {ls ls' : List (String × String)}
    (h : ls.flatMap (fun e => closed e.1 ++ closed e.2) =
      ls'.flatMap fun e => closed e.1 ++ closed e.2) : ls = ls' := by
  induction ls generalizing ls' with
  | nil =>
    cases ls' with
    | nil => rfl
    | cons e' ls' => simp [closed_ne_nil] at h
  | cons e ls ih =>
    cases ls' with
    | nil => simp [closed_ne_nil] at h
    | cons e' ls' =>
      simp only [List.flatMap_cons, List.append_assoc] at h
      obtain ⟨hname, h⟩ := closed_append_inj h
      obtain ⟨hvalue, h⟩ := closed_append_inj h
      rw [ih h, Prod.ext hname hvalue]

theorem preimage_inj {m n : TextMap} : preimage m = preimage n ↔ m = n :=
  ⟨fun h => TextMap.eq_of_entries (flatMap_closed_inj h), fun h => h ▸ rfl⟩

/-! ## The number of eight bytes -/

theorem length_digest (message : List UInt8) : (Sha256.digest message).length = 32 := by
  simp [Sha256.digest, Sha256.digestWords, Sha256.bigEndian]

theorem toNat_shiftLeft_or {n : UInt64} (h : n.toNat < 2 ^ 56) (b : UInt8) :
    ((n <<< 8) ||| b.toUInt64).toNat = n.toNat * 2 ^ 8 + b.toNat := by
  have hshift : (8 : UInt64).toNat % 64 = 8 := by decide
  rw [UInt64.toNat_or, UInt64.toNat_shiftLeft, UInt8.toNat_toUInt64, hshift, Nat.shiftLeft_eq,
    Nat.mod_eq_of_lt (by omega), ← Nat.shiftLeft_eq, ← Nat.shiftLeft_add_eq_or_of_lt b.toNat_lt,
    Nat.shiftLeft_eq]

theorem foldl_inj {bs cs : List UInt8} (hlength : bs.length = cs.length) {m n : UInt64}
    (hm : m.toNat < 2 ^ (64 - 8 * bs.length)) (hn : n.toNat < 2 ^ (64 - 8 * bs.length))
    (hroom : bs.length ≤ 8)
    (h : bs.foldl (fun (n : UInt64) b => (n <<< 8) ||| b.toUInt64) m =
      cs.foldl (fun (n : UInt64) b => (n <<< 8) ||| b.toUInt64) n) : m = n ∧ bs = cs := by
  induction bs generalizing cs m n with
  | nil =>
    obtain rfl := List.eq_nil_of_length_eq_zero hlength.symm
    exact ⟨h, rfl⟩
  | cons b bs ih =>
    obtain ⟨c, cs, rfl⟩ := List.exists_cons_of_length_eq_add_one hlength.symm
    have hpow : 2 ^ (64 - 8 * bs.length) = 2 ^ (64 - 8 * (b :: bs).length) * 2 ^ 8 := by
      rw [← Nat.pow_add]
      congr 1
      simp only [List.length_cons] at hroom ⊢
      omega
    have hsmall : 2 ^ (64 - 8 * (b :: bs).length) ≤ 2 ^ 56 :=
      Nat.pow_le_pow_right (by decide) (by simp only [List.length_cons]; omega)
    have hb := b.toNat_lt
    have hc := c.toNat_lt
    have hmb := toNat_shiftLeft_or (Nat.lt_of_lt_of_le hm hsmall) b
    have hnc := toNat_shiftLeft_or (Nat.lt_of_lt_of_le hn hsmall) c
    have hm' : ((m <<< 8) ||| b.toUInt64).toNat < 2 ^ (64 - 8 * bs.length) := by omega
    have hn' : ((n <<< 8) ||| c.toUInt64).toNat < 2 ^ (64 - 8 * bs.length) := by omega
    obtain ⟨heq, rfl⟩ := ih (Nat.succ.inj hlength) hm' hn' (Nat.le_of_succ_le hroom) h
    rw [heq, hnc] at hmb
    have hnumber : m.toNat = n.toNat := by omega
    have hbyte : b.toNat = c.toNat := by omega
    exact ⟨UInt64.toNat_inj.1 hnumber, by rw [UInt8.toNat_inj.1 hbyte]⟩

theorem ofBytes_inj {bs cs : List UInt8} (hbs : 8 ≤ bs.length) (hcs : 8 ≤ cs.length) :
    ofBytes bs = ofBytes cs ↔ bs.take 8 = cs.take 8 := by
  have hlength : (bs.take 8).length = 8 := by rw [List.length_take, Nat.min_eq_left hbs]
  have hlength' : (cs.take 8).length = 8 := by rw [List.length_take, Nat.min_eq_left hcs]
  constructor
  · intro h
    refine (foldl_inj (hlength.trans hlength'.symm) ?_ ?_ (Nat.le_of_eq hlength) (mk.inj h)).2 <;>
      simp [hlength]
  · intro h
    rw [ofBytes, ofBytes, h]

/-- Two different messages whose digests begin with the same eight bytes. -/
def Collide (xs ys : List UInt8) : Prop :=
  xs ≠ ys ∧ (Sha256.digest xs).take 8 = (Sha256.digest ys).take 8

theorem ofLabels_eq_iff {m n : TextMap} :
    ofLabels m = ofLabels n ↔ m = n ∨ Collide (preimage m) (preimage n) := by
  have hdigest : ofLabels m = ofLabels n ↔
      (Sha256.digest (preimage m)).take 8 = (Sha256.digest (preimage n)).take 8 :=
    ofBytes_inj (by rw [length_digest]; decide) (by rw [length_digest]; decide)
  rw [hdigest, Collide, ne_eq, preimage_inj]
  constructor
  · exact fun h => (em (m = n)).imp id fun hne => ⟨hne, h⟩
  · rintro (rfl | ⟨-, h⟩)
    · rfl
    · exact h

open TextMap in
/-- **What a fingerprint tells.** What is hashed for two lists of labels is the same exactly if both
make the same map. -/
theorem preimage_faithful (ps qs : List (String × String)) :
    (preimage (.ofList ps) = preimage (.ofList qs) ↔
      ∀ name, lastUnder name ps = lastUnder name qs) ∧
    (ps.Perm qs → (ps.map (·.1)).Nodup → preimage (.ofList ps) = preimage (.ofList qs)) ∧
    (∀ p : String × String, p.1 ∈ qs.map (·.1) →
      preimage (.ofList (ps ++ p :: qs)) = preimage (.ofList (ps ++ qs))) ∧
    ∀ e e' : Event, e.labels = .ofList ps → e'.labels = .ofList qs →
      (e.fingerprint = e'.fingerprint ↔
        (∀ name, lastUnder name ps = lastUnder name qs) ∨
          Collide (preimage e.labels) (preimage e'.labels)) := by
  refine ⟨preimage_inj.trans ofList_eq_iff, fun hperm hnames => ?_, fun p hp => ?_, ?_⟩
  · exact preimage_inj.2 (ofList_eq_iff.2 (lastUnder_of_perm hperm hnames))
  · exact preimage_inj.2 (ofList_eq_iff.2 (lastUnder_of_overwritten ps hp))
  · intro e e' he he'
    rw [Event.fingerprint, Event.fingerprint, ofLabels_eq_iff, ← ofList_eq_iff, he, he']

/-- An empty name and an empty value, in both orders, and a value that is overwritten. -/
theorem preimage_faithful_two :
    ([("b", ""), ("", "1")].Perm [("", "1"), ("b", "")] ∧
      (([("b", ""), ("", "1")] : List (String × String)).map (·.1)).Nodup ∧
      preimage (.ofList [("b", ""), ("", "1")]) = preimage (.ofList [("", "1"), ("b", "")])) ∧
    ("b" ∈ ([("", "1"), ("b", "")] : List (String × String)).map (·.1) ∧
      preimage (.ofList [("b", ""), ("", "1"), ("b", "2"), ("", "1"), ("b", "")]) =
        preimage (.ofList [("b", ""), ("", "1"), ("", "1"), ("b", "")])) ∧
    ({ summary := "s", labels := .ofList [("b", ""), ("", "1")], createdAt := .epoch } :
        Event).fingerprint =
      ({ labels := .ofList [("", "1"), ("b", "")], createdAt := .latest } : Event).fingerprint := by
  have hperm : [("b", ""), ("", "1")].Perm [("", "1"), ("b", "")] := by decide
  have hnames : (([("b", ""), ("", "1")] : List (String × String)).map (·.1)).Nodup := by decide
  have hmem : "b" ∈ ([("", "1"), ("b", "")] : List (String × String)).map (·.1) := by decide
  obtain ⟨-, horder, hover, hevents⟩ :=
    preimage_faithful [("b", ""), ("", "1")] [("", "1"), ("b", "")]
  refine ⟨⟨hperm, hnames, horder hperm hnames⟩, ⟨hmem, hover ("b", "2") hmem⟩, ?_⟩
  exact (hevents _ _ rfl rfl).2 (.inl (TextMap.lastUnder_of_perm hperm hnames))

end Fingerprint

end Alerting
