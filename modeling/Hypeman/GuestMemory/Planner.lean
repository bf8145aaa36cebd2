import Hypeman.Foundations.Table
import Hypeman.Foundations.Words
import Mathlib.Algebra.Order.BigOperators.Group.List
import Mathlib.Algebra.Order.Field.Basic
import Mathlib.Tactic.Linarith

/-!
# The reclaim planner

Model of `lib/guestmemory/planner.go`: the memory to reclaim is shared out in proportion to what
each guest can give, rounded down, and what is left goes to the first guests that still can.

The share is a product of two sizes in bytes divided by a third, in 64-bit words. Below the word
size the plan is fair (`planGuestTargets_fair`); two guests of a few GiB are enough to leave it.
-/

namespace Hypeman.GuestMemory

open Foundations

structure BalloonVM where
  id : String
  assigned : Int64
deriving DecidableEq, Repr

structure CandidateState where
  vm : BalloonVM
  current : Int64
  floor : Int64
  maxReclaim : Int64
deriving DecidableEq, Repr

def clampInt64 (v minV maxV : Int64) : Int64 :=
  if v < minV then minV else if maxV < v then maxV else v

def minInt64 (a b : Int64) : Int64 := if a < b then a else b

def maxInt64 (a b : Int64) : Int64 := if b < a then a else b

/-- What the first pass reclaims from a candidate. -/
def firstShare (totalReclaim totalHeadroom : Int64) (c : CandidateState) : Int64 :=
  minInt64 c.maxReclaim (totalReclaim * c.maxReclaim / totalHeadroom)

/-- One round of the first pass, over what is left and the targets. -/
def share (totalReclaim totalHeadroom : Int64) (s : Int64 × Table String Int64)
    (c : CandidateState) : Int64 × Table String Int64 :=
  let reclaim := firstShare totalReclaim totalHeadroom c
  (s.1 - reclaim, s.2.insert c.vm.id (c.vm.assigned - reclaim))

/-- One round of the second pass. -/
def handOut (s : Int64 × Table String Int64) (c : CandidateState) : Int64 × Table String Int64 :=
  let target := (s.2.lookup c.vm.id).getD 0
  let headroomLeft := c.maxReclaim - (c.vm.assigned - target)
  if s.1 ≤ 0 ∨ headroomLeft ≤ 0 then s
  else
    let extra := minInt64 headroomLeft s.1
    (s.1 - extra, s.2.insert c.vm.id (target - extra))

def totalHeadroom (candidates : List CandidateState) : Int64 :=
  candidates.foldl (fun sum c => sum + c.maxReclaim) 0

def planGuestTargets (candidates : List CandidateState) (totalReclaim : Int64) :
    Table String Int64 :=
  let targets := candidates.foldl (fun t c => t.insert c.vm.id c.vm.assigned) ∅
  let headroom := totalHeadroom candidates
  let totalReclaim := clampInt64 totalReclaim 0 headroom
  if headroom ≤ 0 ∨ totalReclaim = 0 then targets
  else
    (candidates.foldl handOut
      (candidates.foldl (share totalReclaim headroom) (totalReclaim, targets))).2

/-! ## The plan in exact numbers -/

/-- The sizes of a candidate fit together, and no guest has more than 16 TiB. -/
structure CandidateState.Sized (c : CandidateState) : Prop where
  floor_nonneg : 0 ≤ c.floor.toInt
  maxReclaim_nonneg : 0 ≤ c.maxReclaim.toInt
  floor_add : c.floor.toInt + c.maxReclaim.toInt = c.vm.assigned.toInt
  assigned_le : c.vm.assigned.toInt ≤ 2 ^ 44

def headroom (cs : List CandidateState) : ℤ := (cs.map (·.maxReclaim.toInt)).sum

/-- What is to be reclaimed, within the headroom. -/
def goal (cs : List CandidateState) (totalReclaim : Int64) : ℤ :=
  max 0 (min totalReclaim.toInt (headroom cs))

def reclaimed (t : Table String Int64) (c : CandidateState) : ℤ :=
  c.vm.assigned.toInt - ((t.lookup c.vm.id).getD 0).toInt

/-- The headroom and its products with the goal are below the word size. -/
def Fits (cs : List CandidateState) (totalReclaim : Int64) : Prop :=
  headroom cs < 2 ^ 63 ∧ ∀ c ∈ cs, goal cs totalReclaim * c.maxReclaim.toInt < 2 ^ 63

/-! ## The passes -/

theorem toInt_minInt64 (a b : Int64) : (minInt64 a b).toInt = min a.toInt b.toInt := by
  unfold minInt64
  split
  next h => rw [min_eq_left (Int64.lt_iff_toInt_lt.mp h).le]
  next h => rw [min_eq_right (not_lt.mp fun hlt => h (Int64.lt_iff_toInt_lt.mpr hlt))]

theorem toInt_totalHeadroom {cs : List CandidateState} (hs : ∀ c ∈ cs, c.Sized) {sum : Int64}
    (hsum : 0 ≤ sum.toInt) (h : sum.toInt + headroom cs < 2 ^ 63) :
    (cs.foldl (fun sum c => sum + c.maxReclaim) sum).toInt = sum.toInt + headroom cs := by
  induction cs generalizing sum with
  | nil => simp [headroom]
  | cons c cs ih =>
    obtain ⟨hc, hcs⟩ := List.forall_mem_cons.mp hs
    have hpos : 0 ≤ headroom cs := List.sum_nonneg (by simpa using fun c h => (hcs c h).2)
    have hcons : headroom (c :: cs) = c.maxReclaim.toInt + headroom cs := by simp [headroom]
    have hadd : (sum + c.maxReclaim).toInt = sum.toInt + c.maxReclaim.toInt :=
      toInt_add_of_lt (by have := hc.2; omega) (by have := hc.2; omega)
    rw [List.foldl_cons, ih hcs (by have := hc.2; omega) (by omega), hadd, hcons]
    omega

/-- A share is rounded down. -/
theorem toInt_firstShare {c : CandidateState} (hc : c.Sized) {R H : Int64} (hR : 0 ≤ R.toInt)
    (hRH : R.toInt ≤ H.toInt) (hH : 0 < H.toInt) (hfit : R.toInt * c.maxReclaim.toInt < 2 ^ 63) :
    (firstShare R H c).toInt = R.toInt * c.maxReclaim.toInt / H.toInt ∧
      0 ≤ (firstShare R H c).toInt ∧ (firstShare R H c).toInt ≤ c.maxReclaim.toInt := by
  have hpos : 0 ≤ R.toInt * c.maxReclaim.toInt := mul_nonneg hR hc.2
  have hmul := toInt_mul_of_lt (x := R) (y := c.maxReclaim) (by omega) (by omega)
  have hdiv := toInt_div_of_nonneg H (hmul ▸ hpos)
  have hle : R.toInt * c.maxReclaim.toInt / H.toInt ≤ c.maxReclaim.toInt := by
    refine Int.ediv_le_of_le_mul hH ?_
    rw [mul_comm]
    exact mul_le_mul_of_nonneg_left hRH hc.2
  have hge : 0 ≤ R.toInt * c.maxReclaim.toInt / H.toInt := Int.ediv_nonneg hpos hH.le
  rw [firstShare, toInt_minInt64, hdiv, hmul, min_eq_right hle]
  exact ⟨rfl, hge, hle⟩

def ids (cs : List CandidateState) : List String := cs.map (·.vm.id)

theorem foldl_share {R H : Int64} {cs : List CandidateState} (hnodup : (ids cs).Nodup)
    (hshare : ∀ c ∈ cs, 0 ≤ (firstShare R H c).toInt) (s : Int64 × Table String Int64)
    (hsum : (cs.map fun c => (firstShare R H c).toInt).sum ≤ s.1.toInt) :
    (cs.foldl (share R H) s).1.toInt =
        s.1.toInt - (cs.map fun c => (firstShare R H c).toInt).sum ∧
      (∀ id ∉ ids cs, (cs.foldl (share R H) s).2.lookup id = s.2.lookup id) ∧
      ∀ c ∈ cs, (cs.foldl (share R H) s).2.lookup c.vm.id =
        some (c.vm.assigned - firstShare R H c) := by
  induction cs generalizing s with
  | nil => simp
  | cons c cs ih =>
    obtain ⟨hc, hcs⟩ := List.forall_mem_cons.mp hshare
    obtain ⟨hfresh, hnodup⟩ := List.nodup_cons.mp hnodup
    rw [List.map_cons, List.sum_cons] at hsum ⊢
    have hpos : 0 ≤ (cs.map fun c => (firstShare R H c).toInt).sum :=
      List.sum_nonneg (by simpa using hcs)
    have hword := s.1.toInt_lt
    have hsub : (share R H s c).1.toInt = s.1.toInt - (firstShare R H c).toInt :=
      toInt_sub_of_lt (by omega) (by omega)
    obtain ⟨hrem, hother, hall⟩ := ih hnodup hcs (share R H s c) (by omega)
    refine ⟨by rw [List.foldl_cons, hrem, hsub]; omega, fun id hid => ?_, ?_⟩
    · obtain ⟨hne, hid⟩ := List.ne_and_not_mem_of_not_mem_cons hid
      rw [List.foldl_cons, hother id hid]
      exact AList.lookup_insert_ne hne
    · rw [List.forall_mem_cons]
      refine ⟨?_, hall⟩
      rw [List.foldl_cons, hother _ hfresh]
      exact AList.lookup_insert _

/-- What one round of the second pass does: no more than what is left, and no more than the
candidate can give. -/
theorem handOut_cases {c : CandidateState} (hc : c.Sized) {s : Int64 × Table String Int64}
    (hs : 0 ≤ s.1.toInt) (hlow : 0 ≤ reclaimed s.2 c)
    (hhigh : reclaimed s.2 c ≤ c.maxReclaim.toInt) :
    (∀ id ≠ c.vm.id, (handOut s c).2.lookup id = s.2.lookup id) ∧
      0 ≤ (handOut s c).1.toInt ∧ (handOut s c).1.toInt ≤ s.1.toInt ∧
      reclaimed (handOut s c).2 c + (handOut s c).1.toInt = reclaimed s.2 c + s.1.toInt ∧
      reclaimed (handOut s c).2 c ≤ c.maxReclaim.toInt ∧
      ((handOut s c).1.toInt = 0 ∨ reclaimed (handOut s c).2 c = c.maxReclaim.toInt) ∧
      ((s.2.lookup c.vm.id).isSome = true → ((handOut s c).2.lookup c.vm.id).isSome = true) := by
  have hbounds := hc.1
  have := hc.2
  have := hc.3
  have := hc.4
  unfold reclaimed at *
  generalize htarget : (s.2.lookup c.vm.id).getD 0 = target at *
  have hcur : (c.vm.assigned - target).toInt = c.vm.assigned.toInt - target.toInt :=
    toInt_sub_of_lt (by omega) (by omega)
  have hleft : (c.maxReclaim - (c.vm.assigned - target)).toInt =
      c.maxReclaim.toInt - (c.vm.assigned.toInt - target.toInt) := by
    rw [toInt_sub_of_lt (by omega) (by omega), hcur]
  unfold handOut
  simp only [htarget]
  split
  next hnone =>
    rw [Int64.le_iff_toInt_le, Int64.le_iff_toInt_le, hleft] at hnone
    change s.1.toInt ≤ 0 ∨ _ ≤ 0 at hnone
    exact ⟨fun _ _ => rfl, hs, le_rfl, by rw [htarget], by rw [htarget]; omega,
      by rw [htarget]; omega, id⟩
  next hsome =>
    obtain ⟨hrem, hheadroom⟩ := not_or.mp hsome
    rw [Int64.le_iff_toInt_le, not_le] at hrem hheadroom
    change 0 < s.1.toInt at hrem
    rw [hleft] at hheadroom
    change 0 < _ at hheadroom
    generalize hextra : minInt64 (c.maxReclaim - (c.vm.assigned - target)) s.1 = extra
    have hmin := toInt_minInt64 (c.maxReclaim - (c.vm.assigned - target)) s.1
    rw [hextra, hleft] at hmin
    have hword := s.1.toInt_lt
    have hrest : (s.1 - extra).toInt = s.1.toInt - extra.toInt :=
      toInt_sub_of_lt (by omega) (by omega)
    have hnew : (target - extra).toInt = target.toInt - extra.toInt :=
      toInt_sub_of_lt (by omega) (by omega)
    simp only [AList.lookup_insert, Option.getD_some, Option.isSome_some, hrest, hnew]
    exact ⟨fun id hne => AList.lookup_insert_ne hne, by omega, by omega, by omega, by omega,
      by omega, fun _ => trivial⟩

/-- The whole second pass. -/
theorem foldl_handOut {cs : List CandidateState} (hnodup : (ids cs).Nodup)
    (hsized : ∀ c ∈ cs, c.Sized) (s : Int64 × Table String Int64) (hs : 0 ≤ s.1.toInt)
    (hfirst : ∀ c ∈ cs, 0 ≤ reclaimed s.2 c ∧ reclaimed s.2 c ≤ c.maxReclaim.toInt ∧
      (s.2.lookup c.vm.id).isSome = true) :
    let s' := cs.foldl handOut s
    (0 ≤ s'.1.toInt ∧ s'.1.toInt ≤ s.1.toInt) ∧ (∀ id ∉ ids cs, s'.2.lookup id = s.2.lookup id) ∧
      (cs.map (reclaimed s'.2)).sum + s'.1.toInt = (cs.map (reclaimed s.2)).sum + s.1.toInt ∧
      (s'.1.toInt = 0 ∨ ∀ c ∈ cs, reclaimed s'.2 c = c.maxReclaim.toInt) ∧
      ∀ c ∈ cs, reclaimed s.2 c ≤ reclaimed s'.2 c ∧ reclaimed s'.2 c ≤ c.maxReclaim.toInt ∧
        reclaimed s'.2 c ≤ reclaimed s.2 c + s.1.toInt ∧ (s'.2.lookup c.vm.id).isSome = true := by
  induction cs generalizing s with
  | nil => simpa using hs
  | cons c cs ih =>
    obtain ⟨hc, hcs⟩ := List.forall_mem_cons.mp hsized
    obtain ⟨⟨hlow, hhigh, hin⟩, hfirst⟩ := List.forall_mem_cons.mp hfirst
    obtain ⟨hfresh, hnodup⟩ := List.nodup_cons.mp hnodup
    obtain ⟨hother, hpos, hle, hsum, hmax, hdone, hkeep⟩ := handOut_cases hc hs hlow hhigh
    -- the candidates that follow are as they were
    have hsame (c' : CandidateState) (h : c' ∈ cs) :
        (handOut s c).2.lookup c'.vm.id = s.2.lookup c'.vm.id :=
      hother _ fun heq => hfresh (List.mem_map.mpr ⟨c', h, heq⟩)
    have hrec (c' : CandidateState) (h : c' ∈ cs) :
        reclaimed (handOut s c).2 c' = reclaimed s.2 c' := by
      rw [reclaimed, hsame c' h, reclaimed]
    obtain ⟨⟨hpos', hle'⟩, hother', hsum', hdone', hall'⟩ := ih hnodup hcs (handOut s c) hpos
      fun c' h => by rw [hrec c' h, hsame c' h]; exact hfirst c' h
    have hhead : reclaimed ((c :: cs).foldl handOut s).2 c = reclaimed (handOut s c).2 c := by
      rw [List.foldl_cons, reclaimed, hother' _ hfresh, reclaimed]
    rw [List.map_congr_left hrec] at hsum'
    refine ⟨⟨hpos', hle'.trans hle⟩, fun id hid => ?_, ?_, ?_,
      List.forall_mem_cons.mpr ⟨⟨?_, ?_, ?_, ?_⟩, ?_⟩⟩
    · obtain ⟨hne, hid⟩ := List.ne_and_not_mem_of_not_mem_cons hid
      exact (hother' id hid).trans (hother id hne)
    · rw [List.map_cons, List.sum_cons, List.map_cons, List.sum_cons, hhead]
      simp only [List.foldl_cons]
      omega
    · rcases hdone with hzero | hfull
      · exact .inl (le_antisymm (hle'.trans_eq hzero) hpos')
      · exact hdone'.imp_right fun h => List.forall_mem_cons.mpr ⟨hhead.trans hfull, h⟩
    · rw [hhead]; omega
    · rw [hhead]; omega
    · rw [hhead]; omega
    · rw [List.foldl_cons, hother' _ hfresh]
      exact hkeep hin
    · intro c' h
      have h' := hall' c' h
      rw [hrec c' h] at h'
      exact ⟨h'.1, h'.2.1, by simp only [List.foldl_cons]; omega, h'.2.2.2⟩

/-! ## The whole plan -/

theorem toInt_clampInt64 {v lo hi : Int64} (h : lo.toInt ≤ hi.toInt) :
    (clampInt64 v lo hi).toInt = max lo.toInt (min v.toInt hi.toInt) := by
  unfold clampInt64
  split
  next hlow =>
    rw [Int64.lt_iff_toInt_lt] at hlow
    omega
  next hlow =>
    rw [Int64.lt_iff_toInt_lt] at hlow
    split
    next hhigh =>
      rw [Int64.lt_iff_toInt_lt] at hhigh
      omega
    next hhigh =>
      rw [Int64.lt_iff_toInt_lt] at hhigh
      omega

/-- The assigned sizes, before anything is reclaimed. -/
theorem foldl_assigned {cs : List CandidateState} (hnodup : (ids cs).Nodup)
    (t : Table String Int64) : ∀ c ∈ cs,
      (cs.foldl (fun t c => t.insert c.vm.id c.vm.assigned) t).lookup c.vm.id =
        some c.vm.assigned := by
  have hother (cs : List CandidateState) (t : Table String Int64) (id : String) (h : id ∉ ids cs) :
      (cs.foldl (fun t c => t.insert c.vm.id c.vm.assigned) t).lookup id = t.lookup id := by
    induction cs generalizing t with
    | nil => rfl
    | cons c cs ih =>
      obtain ⟨hne, h⟩ := List.ne_and_not_mem_of_not_mem_cons h
      rw [List.foldl_cons, ih _ h, AList.lookup_insert_ne hne]
  induction cs generalizing t with
  | nil => simp
  | cons c cs ih =>
    obtain ⟨hfresh, hnodup⟩ := List.nodup_cons.mp hnodup
    refine List.forall_mem_cons.mpr ⟨?_, ih hnodup _⟩
    rw [List.foldl_cons, hother _ _ _ hfresh, AList.lookup_insert]

/-- Also where its product wraps, a share is no more than 16 TiB on either side. -/
theorem firstShare_bounds {c : CandidateState} (hc : c.Sized) {R H : Int64} (hR : 0 ≤ R.toInt)
    (hRH : R.toInt ≤ H.toInt) (hH : 0 < H.toInt) :
    -2 ^ 44 ≤ (firstShare R H c).toInt ∧ (firstShare R H c).toInt ≤ c.maxReclaim.toInt := by
  obtain ⟨hfloor, hmax, hadd, hassigned⟩ := id hc
  by_cases hsmall : R.toInt < 2 ^ 19
  · have hfit : R.toInt * c.maxReclaim.toInt < 2 ^ 63 := by nlinarith
    have h := toInt_firstShare hc hR hRH hH hfit
    omega
  · have hdiv : (R * c.maxReclaim / H).toInt = (R * c.maxReclaim).toInt.tdiv H.toInt :=
      Int64.toInt_div_of_ne_right _ _ (by rintro rfl; simp at hH)
    have hword := (R * c.maxReclaim).le_toInt
    have hlow : -2 ^ 44 ≤ (R * c.maxReclaim).toInt / H.toInt :=
      (Int.le_ediv_iff_mul_le hH).mpr (by omega)
    have htdiv := @Int.tdiv_eq_ediv (R * c.maxReclaim).toInt H.toInt
    rw [Int.sign_eq_one_of_pos hH] at htdiv
    rw [firstShare, toInt_minInt64, hdiv]
    split at htdiv <;> omega

/-- No target is further than that from the memory of its guest. -/
def Near (t : Table String Int64) : Prop :=
  ∀ id target, t.lookup id = some target → -2 ^ 44 ≤ target.toInt ∧ target.toInt ≤ 2 ^ 45

theorem Near.insert {t : Table String Int64} (h : Near t) {id : String} {target : Int64}
    (htarget : -2 ^ 44 ≤ target.toInt ∧ target.toInt ≤ 2 ^ 45) : Near (t.insert id target) :=
  Table.Sets.all (.insert id target t) h fun _ hv => by cases hv; exact htarget

/-- The targets stay near also where products wrap. -/
theorem planGuestTargets_near {cs : List CandidateState} (hsized : ∀ c ∈ cs, c.Sized)
    (totalReclaim : Int64) : Near (planGuestTargets cs totalReclaim) := by
  have hassigned : Near (cs.foldl (fun t c => t.insert c.vm.id c.vm.assigned) ∅) := by
    refine List.foldlRecOn cs _ (fun _ _ h => by cases h) fun t ht c hc => ht.insert ?_
    obtain ⟨hfloor, hmax, hadd, hassigned⟩ := hsized c hc
    omega
  unfold planGuestTargets
  dsimp only
  split
  · exact hassigned
  next hsome =>
    obtain ⟨hhead, -⟩ := not_or.mp hsome
    rw [Int64.le_iff_toInt_le, not_le] at hhead
    change 0 < _ at hhead
    have hR : (clampInt64 totalReclaim 0 (totalHeadroom cs)).toInt = max 0 _ :=
      toInt_clampInt64 hhead.le
    have hkeeps (step : Int64 × Table String Int64 → CandidateState → _)
        (h : ∀ s, Near s.2 → ∀ c ∈ cs, Near (step s c).2) (s : Int64 × Table String Int64)
        (hs : Near s.2) : Near (cs.foldl step s).2 := cs.foldlRecOn step hs h
    refine hkeeps handOut (fun s hs c hc => ?_) _ (hkeeps _ (fun s hs c hc => ?_) _ hassigned)
    · -- the second pass takes no target below a floor
      obtain ⟨hfloor, hmax, hadd, hassigned⟩ := hsized c hc
      unfold handOut
      have hnear : -2 ^ 44 ≤ ((s.2.lookup c.vm.id).getD 0).toInt ∧
          ((s.2.lookup c.vm.id).getD 0).toInt ≤ 2 ^ 45 := by
        cases hlookup : s.2.lookup c.vm.id with
        | none => decide
        | some target => exact hs _ _ hlookup
      generalize (s.2.lookup c.vm.id).getD 0 = target at hnear
      dsimp only
      split
      · exact hs
      next hleft =>
        rw [not_or, Int64.le_iff_toInt_le, Int64.le_iff_toInt_le, not_le, not_le] at hleft
        have hcur : (c.vm.assigned - target).toInt = c.vm.assigned.toInt - target.toInt :=
          toInt_sub_of_lt (by omega) (by omega)
        have hroom := toInt_sub_of_lt (x := c.maxReclaim) (y := c.vm.assigned - target)
          (by omega) (by omega)
        have hextra := toInt_minInt64 (c.maxReclaim - (c.vm.assigned - target)) s.1
        change 0 < _ ∧ 0 < _ at hleft
        refine hs.insert ?_
        rw [toInt_sub_of_lt (by omega) (by omega)]
        omega
    · -- the first pass
      obtain ⟨hfloor, hmax, hadd, hassigned⟩ := hsized c hc
      have hshare := firstShare_bounds (hsized c hc)
        (R := clampInt64 totalReclaim 0 (totalHeadroom cs)) (by omega) (by omega) hhead
      refine hs.insert ?_
      rw [toInt_sub_of_lt (by omega) (by omega)]
      omega

/-- The shares of the first pass: together no more than the goal, and short of it by less than the
number of candidates. -/
theorem sum_firstShare {cs : List CandidateState} {R : ℤ} (hH : 0 < headroom cs) :
    (cs.map fun c => R * c.maxReclaim.toInt / headroom cs).sum ≤ R ∧
      (R - (cs.map fun c => R * c.maxReclaim.toInt / headroom cs).sum) * headroom cs <
        cs.length * headroom cs := by
  generalize hheadroom : headroom cs = H at *
  have hmod (l : List CandidateState) :
      (l.map fun c => R * c.maxReclaim.toInt / H).sum * H ≤ R * headroom l ∧
        R * headroom l ≤
          (l.map fun c => R * c.maxReclaim.toInt / H).sum * H + l.length * (H - 1) := by
    induction l with
    | nil => simp [headroom]
    | cons c l ih =>
      have hdiv := Int.emod_add_mul_ediv (R * c.maxReclaim.toInt) H
      have hlow := Int.emod_nonneg (R * c.maxReclaim.toInt) hH.ne'
      have hhigh := Int.emod_lt_of_pos (R * c.maxReclaim.toInt) hH
      simp only [headroom, List.map_cons, List.sum_cons, List.length_cons, Nat.cast_add,
        Nat.cast_one] at ih ⊢
      constructor <;> nlinarith
  obtain ⟨hle, hge⟩ := hmod cs
  rw [hheadroom] at hle hge
  have hne : 0 < cs.length := by
    rcases cs with _ | ⟨c, cs⟩
    · simp [headroom] at hheadroom
      omega
    · simp
  constructor
  · nlinarith
  · have : (1 : ℤ) ≤ cs.length := by exact_mod_cast hne
    nlinarith

/-- The plan where something is reclaimed. -/
theorem plan_reclaims {cs : List CandidateState} (hnodup : (ids cs).Nodup)
    (hsized : ∀ c ∈ cs, c.Sized) {R H : Int64} (hR : 0 < R.toInt) (hRH : R.toInt ≤ H.toInt)
    (hH : H.toInt = headroom cs) (hfit : ∀ c ∈ cs, R.toInt * c.maxReclaim.toInt < 2 ^ 63)
    (t : Table String Int64) :
    let plan := (cs.foldl handOut (cs.foldl (share R H) (R, t))).2
    (cs.map (reclaimed plan)).sum = R.toInt ∧
      ∀ c ∈ cs, (plan.lookup c.vm.id).isSome = true ∧ 0 ≤ reclaimed plan c ∧
        reclaimed plan c ≤ c.maxReclaim.toInt ∧
        |reclaimed plan c * headroom cs - R.toInt * c.maxReclaim.toInt| <
          cs.length * headroom cs := by
  dsimp only
  have hpos : 0 < H.toInt := hR.trans_le hRH
  have hshare (c : CandidateState) (h : c ∈ cs) :=
    toInt_firstShare (hsized c h) hR.le hRH hpos (hfit c h)
  obtain ⟨hsumle, hsumlt⟩ := @sum_firstShare cs R.toInt (hH ▸ hpos)
  have hmap : cs.map (fun c => (firstShare R H c).toInt) =
      cs.map fun c => R.toInt * c.maxReclaim.toInt / headroom cs :=
    List.map_congr_left fun c h => by rw [(hshare c h).1, hH]
  obtain ⟨hrem, -, hfirst⟩ := foldl_share hnodup (fun c h => (hshare c h).2.1) (R, t)
    (by rw [hmap]; exact hsumle)
  rw [hmap] at hrem
  change _ = R.toInt - _ at hrem
  generalize hs : cs.foldl (share R H) (R, t) = s at *
  have hrec (c : CandidateState) (h : c ∈ cs) :
      reclaimed s.2 c = R.toInt * c.maxReclaim.toInt / headroom cs := by
    have hc := hsized c h
    have hb := hshare c h
    have := hc.1
    have := hc.3
    have := hc.4
    rw [reclaimed, hfirst c h, Option.getD_some, toInt_sub_of_lt (by omega) (by omega), ← hH]
    omega
  obtain ⟨⟨hleft, -⟩, -, hsum, hdone, hall⟩ := foldl_handOut hnodup hsized s (by omega)
    fun c h => ⟨by rw [hrec c h, ← hH, ← (hshare c h).1]; exact (hshare c h).2.1,
      by rw [hrec c h, ← hH, ← (hshare c h).1]; exact (hshare c h).2.2, by simp [hfirst c h]⟩
  rw [List.map_congr_left hrec] at hsum
  -- nothing is left, or all headroom would be used up and the goal exceed it
  have hzero : (cs.foldl handOut s).1.toInt = 0 := by
    rcases hdone with hzero | hfull
    · exact hzero
    · rw [List.map_congr_left hfull] at hsum
      change headroom cs + _ = _ at hsum
      omega
  refine ⟨by omega, fun c h => ?_⟩
  obtain ⟨hlow, hhigh, hmost, hsome⟩ := hall c h
  have hb := hshare c h
  rw [hrec c h] at hlow hmost
  have hdiv := Int.emod_add_mul_ediv (R.toInt * c.maxReclaim.toInt) (headroom cs)
  have hmod := Int.emod_nonneg (R.toInt * c.maxReclaim.toInt) (hH ▸ hpos.ne')
  have hmod' := Int.emod_lt_of_pos (R.toInt * c.maxReclaim.toInt) (hH ▸ hpos)
  have hlen : (1 : ℤ) ≤ cs.length := by exact_mod_cast List.length_pos_of_mem h
  refine ⟨hsome, ?_, hhigh, abs_lt.mpr ⟨?_, ?_⟩⟩
  · exact (hH ▸ hb.1 ▸ hb.2.1).trans hlow
  · nlinarith
  · nlinarith

/-- What the plan reclaims, where the products fit: all that is asked for as far as there is
headroom, and from every guest within its headroom and close to its exact share. -/
theorem planGuestTargets_reclaims {cs : List CandidateState} (hnodup : (ids cs).Nodup)
    (hsized : ∀ c ∈ cs, c.Sized) (totalReclaim : Int64) (hfits : Fits cs totalReclaim) :
    (cs.map (reclaimed (planGuestTargets cs totalReclaim))).sum = goal cs totalReclaim ∧
      ∀ c ∈ cs, ((planGuestTargets cs totalReclaim).lookup c.vm.id).isSome = true ∧
        0 ≤ reclaimed (planGuestTargets cs totalReclaim) c ∧
        reclaimed (planGuestTargets cs totalReclaim) c ≤ c.maxReclaim.toInt ∧
        |(reclaimed (planGuestTargets cs totalReclaim) c : ℚ) -
          goal cs totalReclaim * c.maxReclaim.toInt / headroom cs| < cs.length := by
  have hpos : 0 ≤ headroom cs := List.sum_nonneg (by simpa using fun c h => (hsized c h).2)
  have hH : (totalHeadroom cs).toInt = headroom cs := by
    rw [totalHeadroom, toInt_totalHeadroom hsized le_rfl (by simpa using hfits.1)]
    simp
  have hR : (clampInt64 totalReclaim 0 (totalHeadroom cs)).toInt = goal cs totalReclaim := by
    rw [toInt_clampInt64 (by rw [hH]; exact hpos), hH]
    rfl
  have hlen (c : CandidateState) (h : c ∈ cs) : (0 : ℚ) < cs.length := by
    exact_mod_cast List.length_pos_of_mem h
  unfold planGuestTargets
  dsimp only
  split
  next hnone =>
    have hgoal : goal cs totalReclaim = 0 := by
      rcases hnone with hnone | hnone
      · rw [Int64.le_iff_toInt_le, hH] at hnone
        change headroom cs ≤ 0 at hnone
        rw [goal]
        omega
      · rw [← hR, hnone]
        rfl
    have hzero (c : CandidateState) (h : c ∈ cs) : reclaimed
        (cs.foldl (fun t c => t.insert c.vm.id c.vm.assigned) ∅) c = 0 := by
      rw [reclaimed, foldl_assigned hnodup _ c h, Option.getD_some, sub_self]
    refine ⟨?_, fun c h => ⟨?_, ?_, ?_, ?_⟩⟩
    · rw [List.map_congr_left hzero, hgoal]
      simp
    · rw [foldl_assigned hnodup _ c h]
      rfl
    · rw [hzero c h]
    · rw [hzero c h]
      exact (hsized c h).2
    · rw [hzero c h, hgoal]
      simpa using hlen c h
  next hsome =>
    obtain ⟨hhead, hne⟩ := not_or.mp hsome
    rw [Int64.le_iff_toInt_le, hH, not_le] at hhead
    change 0 < headroom cs at hhead
    have hgoal : 0 < goal cs totalReclaim := by
      refine lt_of_le_of_ne (le_max_left _ _) fun h => hne ?_
      exact Int64.toInt_inj.mp (hR.trans h.symm)
    obtain ⟨hsum, hall⟩ := plan_reclaims hnodup hsized (hR ▸ hgoal)
      (by rw [hR, hH, goal]; omega) hH (fun c h => hR ▸ hfits.2 c h)
      (cs.foldl (fun t c => t.insert c.vm.id c.vm.assigned) ∅)
    refine ⟨hsum.trans hR, fun c h => ?_⟩
    obtain ⟨hin, hlow, hhigh, hshare⟩ := hall c h
    refine ⟨hin, hlow, hhigh, ?_⟩
    rw [hR] at hshare
    have hq : (0 : ℚ) < headroom cs := by exact_mod_cast hhead
    rw [sub_div' hq.ne', abs_div, abs_of_pos hq, div_lt_iff₀ hq]
    exact_mod_cast hshare

/-- Where the products fit, every target lies between the floor of its guest and its assigned size,
the targets reclaim what is asked for as far as there is headroom, and every share is off its exact
proportion by less than the number of candidates. -/
theorem planGuestTargets_fair {cs : List CandidateState} (hnodup : (ids cs).Nodup)
    (hsized : ∀ c ∈ cs, c.Sized) (totalReclaim : Int64) (hfits : Fits cs totalReclaim) :
    (∀ c ∈ cs, ∃ target, (planGuestTargets cs totalReclaim).lookup c.vm.id = some target ∧
      c.floor.toInt ≤ target.toInt ∧ target.toInt ≤ c.vm.assigned.toInt) ∧
    (cs.map (reclaimed (planGuestTargets cs totalReclaim))).sum = goal cs totalReclaim ∧
    ∀ c ∈ cs, |(reclaimed (planGuestTargets cs totalReclaim) c : ℚ) -
      goal cs totalReclaim * c.maxReclaim.toInt / headroom cs| < cs.length := by
  obtain ⟨hsum, hall⟩ := planGuestTargets_reclaims hnodup hsized totalReclaim hfits
  refine ⟨fun c hc => ?_, hsum, fun c hc => (hall c hc).2.2.2⟩
  obtain ⟨hsome, hlow, hhigh, -⟩ := hall c hc
  obtain ⟨target, htarget⟩ := Option.isSome_iff_exists.mp hsome
  rw [reclaimed, htarget, Option.getD_some] at hlow hhigh
  have hfloor := (hsized c hc).3
  exact ⟨target, htarget, by omega, by omega⟩

/-- A guest of 6 GiB and one of 4 GiB that can give half each, and 1 GiB to reclaim. -/
theorem planGuestTargets_fair_gib :
    let a : CandidateState := ⟨⟨"a", 6442450944⟩, 0, 3221225472, 3221225472⟩
    let b : CandidateState := ⟨⟨"b", 4294967296⟩, 0, 2147483648, 2147483648⟩
    (∀ c ∈ [a, b], c.Sized) ∧ Fits [a, b] 1073741824 ∧
      ([a, b].map (reclaimed (planGuestTargets [a, b] 1073741824))).sum = 1073741824 := by
  intro a b
  have hsized : ∀ c ∈ [a, b], c.Sized := by
    rintro c (_ | ⟨_, _ | ⟨_, ⟨⟩⟩⟩) <;> exact ⟨by decide, by decide, by decide, by decide⟩
  have hfits : Fits [a, b] 1073741824 := ⟨by decide, by decide⟩
  refine ⟨hsized, hfits, (planGuestTargets_fair (by decide) hsized 1073741824 hfits).2.1.trans ?_⟩
  decide

/-- 4 GiB from guests that can give 16 GiB and 2.5 GiB: the second one's target is above its
assigned size. -/
theorem planGuestTargets_overflows :
    let a : CandidateState := ⟨⟨"a", 34359738368⟩, 0, 17179869184, 17179869184⟩
    let b : CandidateState := ⟨⟨"b", 5368709120⟩, 0, 2684354560, 2684354560⟩
    (∀ c ∈ [a, b], c.Sized) ∧
      ∃ target, (planGuestTargets [a, b] 4294967296).lookup "b" = some target ∧
        b.vm.assigned.toInt < target.toInt := by
  intro a b
  refine ⟨?_, (planGuestTargets [a, b] 4294967296).lookup "b" |>.getD 0, by decide +kernel,
    by decide +kernel⟩
  rintro c (_ | ⟨_, _ | ⟨_, ⟨⟩⟩⟩) <;> exact ⟨by decide, by decide, by decide, by decide⟩

end Hypeman.GuestMemory
