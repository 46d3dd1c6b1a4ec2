import TemplateTree.Proofs.Text.Entries
import TemplateTree.Text.Utf8
import Mathlib.Tactic.IntervalCases

/-!
# Encodings

Texts are in the order of their bytes.  The encodings of two characters differ before
either ends, and there the greater character has the greater byte.  A text is read back from
its bytes: the first byte of a character says how many follow it, and each of these lies where
the reader expects it.  No other bytes are read as a text.
-/

namespace TemplateTree.Text

/-! ## Their order -/

section

variable {a b : Text} {c d : Char} {m n : Nat} {s t : Bytes}

theorem toUInt8_lt_iff (hm : m < 256) (hn : n < 256) : m.toUInt8 < n.toUInt8 ↔ m < n := by
  rw [UInt8.lt_iff_toNat_lt, Nat.toUInt8_eq, Nat.toUInt8_eq, UInt8.toNat_ofNat',
    UInt8.toNat_ofNat', Nat.mod_eq_of_lt hm, Nat.mod_eq_of_lt hn]

theorem toUInt8_eq_iff (hm : m < 256) (hn : n < 256) : m.toUInt8 = n.toUInt8 ↔ m = n := by
  rw [← UInt8.toNat_inj, Nat.toUInt8_eq, Nat.toUInt8_eq, UInt8.toNat_ofNat',
    UInt8.toNat_ofNat', Nat.mod_eq_of_lt hm, Nat.mod_eq_of_lt hn]

/-- Bytes in front decide the order, or leave it to what follows. -/
theorem toUInt8_cons_lt_iff (hm : m < 256) (hn : n < 256) :
    m.toUInt8 :: s < n.toUInt8 :: t ↔ m < n ∨ m = n ∧ s < t := by
  rw [List.cons_lt_cons_iff, toUInt8_lt_iff hm hn, toUInt8_eq_iff hm hn]

theorem toNat_lt (c : Char) : c.toNat < 0x110000 := by
  have hvalid := c.valid
  rcases hvalid with h | h
  · exact Nat.lt_trans h (by decide)
  · exact h.2

theorem charBytes_append_lt (h : c.toNat < d.toNat) :
    charBytes c ++ s < charBytes d ++ t := by
  have hc := toNat_lt c
  have hd := toNat_lt d
  unfold charBytes
  dsimp only
  -- the first bytes tell how many follow, and each following one holds a digit to base 64
  split_ifs <;> simp (disch := omega) only [List.cons_append, List.nil_append,
    toUInt8_cons_lt_iff] <;> omega

theorem charBytes_ne_nil (c : Char) : charBytes c ≠ [] := by
  unfold charBytes
  dsimp only
  split_ifs <;> simp

theorem toBytes_lt_of_order (h : order a b = .lt) : toBytes a < toBytes b := by
  induction a generalizing b with
  | nil =>
      cases b with
      | nil => cases h
      | cons d b =>
          obtain ⟨x, xs, hx⟩ := List.exists_cons_of_ne_nil (charBytes_ne_nil d)
          rw [toBytes, toBytes, List.flatMap_nil, List.flatMap_cons, hx]
          exact List.nil_lt_cons _ _
  | cons c a ih =>
      cases b with
      | nil => cases h
      | cons d b =>
          rw [toBytes, toBytes, List.flatMap_cons, List.flatMap_cons]
          rcases order_cons_lt_iff.mp h with hlt | ⟨heq, hlt⟩
          · exact charBytes_append_lt hlt
          · obtain rfl := Char.toNat_inj.mp heq
            exact List.append_left_lt (ih hlt)

/-- The order of texts is that of their bytes. -/
theorem order_eq_lt_iff : order a b = .lt ↔ toBytes a < toBytes b := by
  refine ⟨toBytes_lt_of_order, fun hlt => ?_⟩
  cases hord : order a b with
  | lt => rfl
  | eq =>
      obtain rfl := order_eq_iff.mp hord
      exact absurd hlt (List.lt_irrefl _)
  | gt =>
      have hgt : order b a = .lt := by rw [← order_swap, hord]; rfl
      exact absurd hlt (List.lt_asymm (toBytes_lt_of_order hgt))

end

/-! ## Single bytes -/

variable {m n left code low high : Nat} {r bytes : Bytes} {b b₂ b₃ b₄ : UInt8} {state : ByteState}
  {t : Text}

theorem toNat_toUInt8 (h : m < 256) : m.toUInt8.toNat = m := by
  rw [Nat.toUInt8_eq, UInt8.toNat_ofNat', Nat.mod_eq_of_lt h]

theorem scanBytes_opens (hm : m < 256) (h : leadByte m = .opens state) :
    scanBytes .start (m.toUInt8 :: r) = scanBytes state r := by
  rw [scanBytes, toNat_toUInt8 hm, h]

theorem scanBytes_more (hn : n < 64) (hlow : low ≤ 0x80 + n) (hhigh : 0x80 + n ≤ high)
    (hleft : 1 < left) :
    scanBytes (.more left code low high) ((0x80 + n).toUInt8 :: r) =
      scanBytes (.more (left - 1) (code * 64 + n) 0x80 0xBF) r := by
  rw [scanBytes, toNat_toUInt8 (by omega), if_pos ⟨hlow, hhigh⟩]
  simp only [Nat.add_sub_cancel_left, if_neg (Nat.not_le.mpr hleft)]

theorem scanBytes_last (hn : n < 64) (hlow : low ≤ 0x80 + n) (hhigh : 0x80 + n ≤ high) :
    scanBytes (.more 1 code low high) ((0x80 + n).toUInt8 :: r) =
      some (Char.ofNat (code * 64 + n)) :: scanBytes .start r := by
  rw [scanBytes, toNat_toUInt8 (by omega), if_pos ⟨hlow, hhigh⟩]
  simp only [Nat.add_sub_cancel_left, Nat.le_refl, if_true]

theorem leadByte_two (hlow : 2 ≤ n) (hhigh : n < 32) :
    leadByte (0xC0 + n) = .opens (.more 1 n 0x80 0xBF) := by
  rw [leadByte, if_neg (by omega), if_neg (by omega), if_pos (by omega), Nat.add_sub_cancel_left]

theorem leadByte_three (hn : n < 16) : leadByte (0xE0 + n) =
    .opens (.more 2 n (if n = 0 then 0xA0 else 0x80) (if n = 0xD then 0x9F else 0xBF)) := by
  interval_cases n <;> rfl

theorem leadByte_four (hn : n < 5) : leadByte (0xF0 + n) =
    .opens (.more 3 n (if n = 0 then 0x90 else 0x80) (if n = 4 then 0x8F else 0xBF)) := by
  interval_cases n <;> rfl

/-! ## Characters and texts -/

/-- Codes between the two ranges of characters are not those of characters. -/
theorem toNat_not_surrogate (c : Char) : c.toNat < 0xD800 ∨ 0xDFFF < c.toNat := by
  rcases c.valid with h | h
  · exact .inl h
  · exact .inr h.1

theorem scanBytes_charBytes (c : Char) (r : Bytes) :
    scanBytes .start (charBytes c ++ r) = some c :: scanBytes .start r := by
  have hmax := toNat_lt c
  have hgap := toNat_not_surrogate c
  have hchar : ∀ n, n = c.toNat → some (Char.ofNat n) = some c := by
    rintro n rfl
    rw [Char.ofNat_toNat]
  unfold charBytes
  dsimp only
  split
  case isTrue hone =>
    rw [List.singleton_append, scanBytes, toNat_toUInt8 (by omega), leadByte, if_pos hone]
    exact congrArg (· :: _) (hchar _ rfl)
  case isFalse hone =>
    split
    case isTrue htwo =>
      rw [List.cons_append, scanBytes_opens (by omega) (leadByte_two (by omega) (by omega)),
        List.singleton_append, scanBytes_last (by omega) (by omega) (by omega)]
      exact congrArg (· :: _) (hchar _ (by omega))
    case isFalse htwo =>
      split
      case isTrue hthree =>
        rw [List.cons_append, scanBytes_opens (by omega) (leadByte_three (by omega)),
          List.cons_append,
          scanBytes_more (by omega) (by split <;> omega) (by split <;> omega) (by omega),
          List.singleton_append, scanBytes_last (by omega) (by omega) (by omega)]
        exact congrArg (· :: _) (hchar _ (by omega))
      case isFalse hthree =>
        rw [List.cons_append, scanBytes_opens (by omega) (leadByte_four (by omega)),
          List.cons_append,
          scanBytes_more (by omega) (by split <;> omega) (by split <;> omega) (by omega),
          List.cons_append, scanBytes_more (by omega) (by omega) (by omega) (by omega),
          List.singleton_append, scanBytes_last (by omega) (by omega) (by omega)]
        exact congrArg (· :: _) (hchar _ (by omega))

theorem scanBytes_toBytes (t : Text) : scanBytes .start (toBytes t) = t.map some := by
  induction t with
  | nil => rfl
  | cons c t ih =>
      rw [toBytes, List.flatMap_cons, scanBytes_charBytes, ← toBytes, ih, List.map_cons]

/-- A text is read back from its bytes. -/
theorem ofBytes?_toBytes (t : Text) : ofBytes? (toBytes t) = some t := by
  rw [ofBytes?, scanBytes_toBytes]
  induction t with
  | nil => rfl
  | cons c t ih => simp [List.mapM_cons, ih]

/-! ## What is accepted -/

/-- The characters that a reading comes to, if no piece is malformed. -/
def decoded (state : ByteState) (bytes : Bytes) : Option Text :=
  (scanBytes state bytes).mapM id

theorem exists_of_mapM_cons {c? : Option Char} {l : List (Option Char)}
    (h : (c? :: l).mapM id = some t) : ∃ c t', c? = some c ∧ l.mapM id = some t' ∧ t = c :: t' := by
  rw [List.mapM_cons] at h
  obtain ⟨c, hc, h⟩ := Option.bind_eq_some_iff.mp h
  obtain ⟨t', ht', h⟩ := Option.bind_eq_some_iff.mp h
  exact ⟨c, t', hc, ht', (Option.some.inj h).symm⟩

theorem exists_of_decoded_more (h : decoded (.more left code low high) bytes = some t) :
    ∃ b r, bytes = b :: r ∧ low ≤ b.toNat ∧ b.toNat ≤ high ∧ (if left ≤ 1 then
        ∃ t', decoded .start r = some t' ∧ t = Char.ofNat (code * 64 + (b.toNat - 0x80)) :: t'
      else decoded (.more (left - 1) (code * 64 + (b.toNat - 0x80)) 0x80 0xBF) r = some t) := by
  cases bytes with
  | nil =>
      obtain ⟨c, _, hc, -⟩ := exists_of_mapM_cons h
      cases hc
  | cons b r =>
      rw [decoded, scanBytes] at h
      split at h
      case isFalse =>
        obtain ⟨c, _, hc, -⟩ := exists_of_mapM_cons h
        cases hc
      case isTrue hb =>
        refine ⟨b, r, rfl, hb.1, hb.2, ?_⟩
        dsimp only at h
        split at h
        case isTrue hlast =>
          obtain ⟨c, t', hc, ht', rfl⟩ := exists_of_mapM_cons h
          rw [if_pos hlast]
          exact ⟨t', ht', by rw [Option.some.inj hc]⟩
        case isFalse hlast =>
          rw [if_neg hlast]
          exact h

theorem toNat_ofNat (h : n < 0xD800 ∨ 0xDFFF < n ∧ n < 0x110000) : (Char.ofNat n).toNat = n := by
  unfold Char.ofNat
  rw [dif_pos h]
  rfl

theorem eq_toUInt8 (h : b.toNat = n) : b = n.toUInt8 := by
  rw [← h, Nat.toUInt8_eq, UInt8.ofNat_toNat]

theorem charBytes_two (hb : b.toNat = 0xC0 + n) (hn : 2 ≤ n ∧ n < 32)
    (h₂ : 0x80 ≤ b₂.toNat ∧ b₂.toNat ≤ 0xBF) :
    charBytes (Char.ofNat (n * 64 + (b₂.toNat - 0x80))) = [b, b₂] := by
  rw [charBytes, toNat_ofNat (by omega), if_neg (by omega), if_pos (by omega)]
  simp only [List.cons.injEq, and_true]
  exact ⟨(eq_toUInt8 (by omega)).symm, (eq_toUInt8 (by omega)).symm⟩

theorem charBytes_three (hb : b.toNat = 0xE0 + n) (hn : n < 16)
    (h₂ : (if n = 0 then 0xA0 else 0x80) ≤ b₂.toNat ∧
      b₂.toNat ≤ (if n = 0xD then 0x9F else 0xBF))
    (h₃ : 0x80 ≤ b₃.toNat ∧ b₃.toNat ≤ 0xBF) :
    charBytes (Char.ofNat ((n * 64 + (b₂.toNat - 0x80)) * 64 + (b₃.toNat - 0x80))) =
      [b, b₂, b₃] := by
  rw [charBytes, toNat_ofNat (by split_ifs at h₂ <;> omega), if_neg (by split_ifs at h₂ <;> omega),
    if_neg (by split_ifs at h₂ <;> omega), if_pos (by split_ifs at h₂ <;> omega)]
  have hfollow : 0x80 ≤ b₂.toNat ∧ b₂.toNat ≤ 0xBF := by split_ifs at h₂ <;> omega
  simp only [List.cons.injEq, and_true]
  exact ⟨(eq_toUInt8 (by omega)).symm, (eq_toUInt8 (by omega)).symm, (eq_toUInt8 (by omega)).symm⟩

theorem charBytes_four (hb : b.toNat = 0xF0 + n) (hn : n < 5)
    (h₂ : (if n = 0 then 0x90 else 0x80) ≤ b₂.toNat ∧
      b₂.toNat ≤ (if n = 4 then 0x8F else 0xBF))
    (h₃ : 0x80 ≤ b₃.toNat ∧ b₃.toNat ≤ 0xBF) (h₄ : 0x80 ≤ b₄.toNat ∧ b₄.toNat ≤ 0xBF) :
    charBytes (Char.ofNat (((n * 64 + (b₂.toNat - 0x80)) * 64 + (b₃.toNat - 0x80)) * 64 +
      (b₄.toNat - 0x80))) = [b, b₂, b₃, b₄] := by
  rw [charBytes, toNat_ofNat (by split_ifs at h₂ <;> omega), if_neg (by split_ifs at h₂ <;> omega),
    if_neg (by split_ifs at h₂ <;> omega), if_neg (by split_ifs at h₂ <;> omega)]
  have hfollow : 0x80 ≤ b₂.toNat ∧ b₂.toNat ≤ 0xBF := by split_ifs at h₂ <;> omega
  simp only [List.cons.injEq, and_true]
  exact ⟨(eq_toUInt8 (by omega)).symm, (eq_toUInt8 (by omega)).symm,
    (eq_toUInt8 (by omega)).symm, (eq_toUInt8 (by omega)).symm⟩

theorem decoded_of_opens (h : leadByte b.toNat = .opens state) :
    decoded .start (b :: r) = decoded state r := by
  rw [decoded, scanBytes, h]
  rfl

theorem leadByte_malformed (h : 0x80 ≤ n ∧ n < 0xC2 ∨ 0xF5 ≤ n) : leadByte n = .malformed := by
  unfold leadByte
  split_ifs <;> first | rfl | omega

/-- The bytes of a character come first in what is read. -/
theorem exists_of_decoded (h : decoded .start (b :: r) = some t) : ∃ c r' t',
    b :: r = charBytes c ++ r' ∧ decoded .start r' = some t' ∧ t = c :: t' := by
  have hmax := b.toNat_lt
  rcases Nat.lt_or_ge b.toNat 0x80 with hone | hone
  · rw [decoded, scanBytes, leadByte, if_pos hone] at h
    obtain ⟨c, t', hc, ht', rfl⟩ := exists_of_mapM_cons h
    obtain rfl := Option.some.inj hc
    refine ⟨_, r, t', ?_, ht', rfl⟩
    rw [charBytes, toNat_ofNat (by omega), if_pos hone, ← eq_toUInt8 rfl, List.singleton_append]
  by_cases hbad : b.toNat < 0xC2 ∨ 0xF5 ≤ b.toNat
  · rw [decoded, scanBytes, leadByte_malformed (by omega)] at h
    obtain ⟨c, _, hc, -⟩ := exists_of_mapM_cons h
    cases hc
  rcases Nat.lt_or_ge b.toNat 0xE0 with htwo | htwo
  · obtain ⟨n, hn⟩ := Nat.exists_eq_add_of_le (show 0xC0 ≤ b.toNat by omega)
    rw [decoded_of_opens (hn ▸ leadByte_two (by omega) (by omega))] at h
    obtain ⟨b₂, r₂, rfl, hlow, hhigh, t', ht', rfl⟩ := exists_of_decoded_more h
    exact ⟨_, r₂, t', by rw [charBytes_two hn (by omega) ⟨hlow, hhigh⟩]; rfl, ht', rfl⟩
  rcases Nat.lt_or_ge b.toNat 0xF0 with hthree | hthree
  · obtain ⟨n, hn⟩ := Nat.exists_eq_add_of_le htwo
    rw [decoded_of_opens (hn ▸ leadByte_three (by omega))] at h
    obtain ⟨b₂, r₂, rfl, hlow, hhigh, h⟩ := exists_of_decoded_more h
    obtain ⟨b₃, r₃, rfl, hlow₃, hhigh₃, t', ht', rfl⟩ := exists_of_decoded_more h
    refine ⟨_, r₃, t', ?_, ht', rfl⟩
    rw [charBytes_three hn (by omega) ⟨hlow, hhigh⟩ ⟨hlow₃, hhigh₃⟩]
    rfl
  · obtain ⟨n, hn⟩ := Nat.exists_eq_add_of_le hthree
    rw [decoded_of_opens (hn ▸ leadByte_four (by omega))] at h
    obtain ⟨b₂, r₂, rfl, hlow, hhigh, h⟩ := exists_of_decoded_more h
    obtain ⟨b₃, r₃, rfl, hlow₃, hhigh₃, h⟩ := exists_of_decoded_more h
    obtain ⟨b₄, r₄, rfl, hlow₄, hhigh₄, t', ht', rfl⟩ := exists_of_decoded_more h
    refine ⟨_, r₄, t', ?_, ht', rfl⟩
    rw [charBytes_four hn (by omega) ⟨hlow, hhigh⟩ ⟨hlow₃, hhigh₃⟩ ⟨hlow₄, hhigh₄⟩]
    rfl

/-- Bytes that are read are those of the text. -/
theorem eq_toBytes_of_decoded (h : decoded .start bytes = some t) : bytes = toBytes t := by
  induction hlen : bytes.length using Nat.strong_induction_on generalizing bytes t with
  | _ len ih =>
      cases bytes with
      | nil =>
          cases h
          rfl
      | cons b r =>
          obtain ⟨c, r', t', heq, ht', rfl⟩ := exists_of_decoded h
          have hpos := List.length_pos_iff.mpr (charBytes_ne_nil c)
          have hshort : r'.length < len := by
            rw [← hlen, heq, List.length_append]
            omega
          rw [heq, toBytes, List.flatMap_cons, ← toBytes, ← ih _ hshort ht' rfl]

/-- Bytes are read as a text only if they are those of the text. -/
theorem ofBytes?_eq_some_iff : ofBytes? bytes = some t ↔ bytes = toBytes t :=
  ⟨eq_toBytes_of_decoded, fun h => h ▸ ofBytes?_toBytes t⟩

end TemplateTree.Text
