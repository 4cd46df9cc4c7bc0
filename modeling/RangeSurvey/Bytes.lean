/-!
# Little-endian words

Words of two and four bytes, least significant byte first, and the replacement of a stretch of a
byte buffer.
-/

namespace RangeSurvey.Bytes

def ofWord16 (w : UInt16) : List UInt8 :=
  [UInt8.ofNat w.toNat, UInt8.ofNat (w.toNat / 256)]

def ofWord32 (w : UInt32) : List UInt8 :=
  [UInt8.ofNat w.toNat, UInt8.ofNat (w.toNat / 256), UInt8.ofNat (w.toNat / 65536),
    UInt8.ofNat (w.toNat / 16777216)]

def word16 (b₀ b₁ : UInt8) : UInt16 := UInt16.ofNat (b₀.toNat + 256 * b₁.toNat)

def word32 (b₀ b₁ b₂ b₃ : UInt8) : UInt32 :=
  UInt32.ofNat (b₀.toNat + 256 * b₁.toNat + 65536 * b₂.toNat + 16777216 * b₃.toNat)

/-- The four-byte words that `bytes` starts with; up to three bytes left at the end are no word. -/
def words32 : List UInt8 → List UInt32
  | b₀ :: b₁ :: b₂ :: b₃ :: rest => word32 b₀ b₁ b₂ b₃ :: words32 rest
  | _ => []

def ofWords32 (ws : List UInt32) : List UInt8 := ws.flatMap ofWord32

/-- Replaces the bytes of `buffer` from `offset` on by `bytes`. -/
def splice (buffer : List UInt8) (offset : Nat) (bytes : List UInt8) : List UInt8 :=
  buffer.take offset ++ bytes ++ buffer.drop (offset + bytes.length)

@[simp] theorem length_ofWord16 (w : UInt16) : (ofWord16 w).length = 2 := rfl

@[simp] theorem length_ofWord32 (w : UInt32) : (ofWord32 w).length = 4 := rfl

theorem word16_ofWord16 (w : UInt16) :
    word16 (UInt8.ofNat w.toNat) (UInt8.ofNat (w.toNat / 256)) = w := by
  apply UInt16.toNat_inj.mp
  have := w.toNat_lt
  simp only [word16, UInt16.toNat_ofNat', UInt8.toNat_ofNat']
  omega

theorem word32_ofWord32 (w : UInt32) :
    word32 (UInt8.ofNat w.toNat) (UInt8.ofNat (w.toNat / 256)) (UInt8.ofNat (w.toNat / 65536))
      (UInt8.ofNat (w.toNat / 16777216)) = w := by
  apply UInt32.toNat_inj.mp
  have := w.toNat_lt
  simp only [word32, UInt32.toNat_ofNat', UInt8.toNat_ofNat']
  omega

theorem ofWord16_word16 (b₀ b₁ : UInt8) : ofWord16 (word16 b₀ b₁) = [b₀, b₁] := by
  have h₀ := b₀.toNat_lt
  have h₁ := b₁.toNat_lt
  simp only [ofWord16, word16, UInt16.toNat_ofNat', List.cons.injEq, and_true]
  constructor <;> apply UInt8.toNat_inj.mp <;> simp only [UInt8.toNat_ofNat'] <;> omega

theorem ofWord32_word32 (b₀ b₁ b₂ b₃ : UInt8) :
    ofWord32 (word32 b₀ b₁ b₂ b₃) = [b₀, b₁, b₂, b₃] := by
  have h₀ := b₀.toNat_lt
  have h₁ := b₁.toNat_lt
  have h₂ := b₂.toNat_lt
  have h₃ := b₃.toNat_lt
  simp only [ofWord32, word32, UInt32.toNat_ofNat', List.cons.injEq, and_true]
  refine ⟨?_, ?_, ?_, ?_⟩ <;> apply UInt8.toNat_inj.mp <;> simp only [UInt8.toNat_ofNat'] <;> omega

@[simp] theorem length_ofWords32 (ws : List UInt32) : (ofWords32 ws).length = 4 * ws.length := by
  induction ws with
  | nil => rfl
  | cons w ws ih =>
    simp only [ofWords32, List.flatMap_cons, List.length_append, List.length_cons] at ih ⊢
    rw [ih, length_ofWord32]
    omega

/-- Words come back from their bytes, whatever follows, as long as it is less than a word. -/
theorem words32_ofWords32 (ws : List UInt32) : words32 (ofWords32 ws) = ws := by
  induction ws with
  | nil => rfl
  | cons w ws ih =>
    change words32 (ofWord32 w ++ ofWords32 ws) = w :: ws
    simp only [ofWord32, List.cons_append, List.nil_append, words32, word32_ofWord32, ih]

theorem length_words32 (bytes : List UInt8) : (words32 bytes).length = bytes.length / 4 := by
  induction bytes using words32.induct with
  | case1 b₀ b₁ b₂ b₃ rest ih =>
    simp only [words32, List.length_cons, ih]
    omega
  | case2 bytes h =>
    rcases bytes with _ | ⟨b₀, _ | ⟨b₁, _ | ⟨b₂, _ | ⟨b₃, rest⟩⟩⟩⟩
    · rfl
    · simp [words32]
    · simp [words32]
    · simp [words32]
    · exact absurd rfl (h b₀ b₁ b₂ b₃ rest)

/-- Replacing a stretch inside a buffer keeps its length. -/
theorem length_splice {buffer bytes : List UInt8} {offset : Nat}
    (h : offset + bytes.length ≤ buffer.length) :
    (splice buffer offset bytes).length = buffer.length := by
  simp only [splice, List.length_append, List.length_take, List.length_drop]
  omega

end RangeSurvey.Bytes
