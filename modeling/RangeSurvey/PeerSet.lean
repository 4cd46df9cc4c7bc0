/-!
# Peer sets

A set of station slots as a 32-bit word: bit `p` is set when slot `p` is in the set. A slot at
or above 32 is never a member. Counting, ranking and listing walk the word separately.
-/

namespace RangeSurvey

/-- The width of a peer set, which bounds how many stations a survey may have. -/
def maxNodes : Nat := 32

def minNodes : Nat := 2

@[ext]
structure PeerSet where
  bits : BitVec 32
deriving DecidableEq, Repr

namespace PeerSet

def empty : PeerSet := ⟨0#32⟩

instance : Inhabited PeerSet := ⟨empty⟩

/-- The set whose word is `w`, as it travels in a frame. -/
def ofWord (w : UInt32) : PeerSet := ⟨w.toBitVec⟩

def toWord (s : PeerSet) : UInt32 := ⟨s.bits⟩

def contains (s : PeerSet) (p : Nat) : Bool := s.bits.getLsbD p

instance : Membership Nat PeerSet := ⟨fun s p => s.contains p = true⟩

instance (p : Nat) (s : PeerSet) : Decidable (p ∈ s) :=
  inferInstanceAs (Decidable (s.contains p = true))

/-- Adding a slot that has no bit changes nothing. -/
def insert (s : PeerSet) (p : Nat) : PeerSet :=
  if p < 32 then ⟨s.bits ||| BitVec.twoPow 32 p⟩ else s

def erase (s : PeerSet) (p : Nat) : PeerSet :=
  if p < 32 then ⟨s.bits &&& ~~~BitVec.twoPow 32 p⟩ else s

def inter (s t : PeerSet) : PeerSet := ⟨s.bits &&& t.bits⟩

def below (n : Nat) : PeerSet := ⟨BitVec.ofNat 32 ((1 <<< min n 32) - 1)⟩

/-- The slots below `n` other than `p`: everybody a station in slot `p` can range against. -/
def others (n p : Nat) : PeerSet := (below n).erase p

def isEmpty (s : PeerSet) : Bool := s.bits == 0#32

def within (s : PeerSet) (n : Nat) : Bool := s.bits &&& ~~~(below n).bits == 0#32

/-- The number of ones among the lowest `width` binary digits of `word`. -/
def ones : (width word : Nat) → Nat
  | 0, _ => 0
  | width + 1, word => word % 2 + ones width (word / 2)

def count (s : PeerSet) : Nat := ones 32 s.bits.toNat

/-- The place of `p` among the members in ascending order, which is where its packed distance
stands. It is found by counting the bits below `p`. -/
def rank (s : PeerSet) (p : Nat) : Option Nat :=
  if s.contains p then some (ones 32 (s.bits.toNat % (1 <<< p))) else none

/-- The positions of the ones among the lowest `width` digits of `word`, the lowest digit standing
at position `start`. -/
def positions : (width start word : Nat) → List Nat
  | 0, _, _ => []
  | width + 1, start, word =>
    if word % 2 = 1 then start :: positions width (start + 1) (word / 2)
    else positions width (start + 1) (word / 2)

def members (s : PeerSet) : List Nat := positions 32 0 s.bits.toNat

@[simp] theorem contains_empty (p : Nat) : empty.contains p = false := by
  simp [contains, empty]

/-- A slot without a bit is never a member. -/
theorem contains_of_le {s : PeerSet} {p : Nat} (h : 32 ≤ p) : s.contains p = false :=
  BitVec.getLsbD_of_ge s.bits p h

theorem lt_of_contains {s : PeerSet} {p : Nat} (h : s.contains p = true) : p < 32 :=
  BitVec.lt_of_getLsbD h

theorem contains_insert (s : PeerSet) (p q : Nat) :
    (s.insert p).contains q = (s.contains q || (decide (q = p) && decide (p < 32))) := by
  unfold insert
  split
  · next h => simp [contains, BitVec.getLsbD_twoPow, h, eq_comm]
  · next h => simp [h]

theorem contains_erase (s : PeerSet) (p q : Nat) :
    (s.erase p).contains q = (s.contains q && decide (q ≠ p)) := by
  rcases Nat.lt_or_ge q 32 with hq | hq
  · unfold erase
    split
    · simp [contains, hq, eq_comm]
    · have : q ≠ p := by omega
      simp [this]
  · simp [contains_of_le hq]

theorem contains_inter (s t : PeerSet) (p : Nat) :
    (s.inter t).contains p = (s.contains p && t.contains p) := by
  simp [contains, inter]

theorem contains_below (n p : Nat) :
    (below n).contains p = (decide (p < n) && decide (p < 32)) := by
  simp only [contains, below, BitVec.getLsbD_ofNat, Nat.one_shiftLeft,
    Nat.testBit_two_pow_sub_one]
  rw [Bool.eq_iff_iff]
  simp only [Bool.and_eq_true, decide_eq_true_eq]
  omega

theorem contains_others (n p q : Nat) :
    (others n p).contains q = (decide (q < n) && decide (q < 32) && decide (q ≠ p)) := by
  rw [others, contains_erase, contains_below]

theorem ext_contains {s t : PeerSet} (h : ∀ p, s.contains p = t.contains p) : s = t := by
  apply PeerSet.ext
  exact BitVec.eq_of_getLsbD_eq fun i _ => h i

end PeerSet

end RangeSurvey
