import Mathlib.Data.List.Perm.Basic
import Mathlib.Data.List.Pairwise

/-!
# Sequences of records

A reader takes one record off the front of its input and returns it with what is left. `readEach`
calls it until the input is used up and hands every record to a handler that accumulates a state.

* `readEach_flatMap`: where the reader reads back what was written, the loop folds the handler over
  the records that were written.
* `Arrangement`: known records in any order, with others among them. Where the handler ignores the
  others and the order of the known ones does not matter to it, it sees the known records only
  (`Arrangement.foldlM_eq`).
-/

namespace Hypeman.Foundations

universe u

variable {α β γ : Type*} {ε σ : Type u}

/-- At most `n` records read from the input, each handed to `handle`. -/
def readEach (read : List β → Except ε (α × List β)) (handle : σ → α → Except ε σ) :
    Nat → σ → List β → Except ε σ
  | 0, s, _ => .ok s
  | _ + 1, s, [] => .ok s
  | n + 1, s, b :: input =>
    match read (b :: input) with
    | .error err => .error err
    | .ok (a, rest) =>
      match handle s a with
      | .error err => .error err
      | .ok s' => readEach read handle n s' rest

section Written

variable {read : List β → Except ε (α × List β)} {handle : σ → α → Except ε σ}
  {write : γ → List β} {value : γ → α}

theorem length_le_flatMap (hne : ∀ c, write c ≠ []) (cs : List γ) :
    cs.length ≤ (cs.flatMap write).length := by
  induction cs with
  | nil => exact Nat.le_refl 0
  | cons c cs ih =>
    have hpos := List.length_pos_of_ne_nil (hne c)
    rw [List.flatMap_cons, List.length_append, List.length_cons]
    omega

/-- Written records are handled one after the other, if each is read back before what follows it;
then the loop goes on with the rest of the input. -/
theorem readEach_flatMap_append (hne : ∀ c, write c ≠ []) {cs : List γ} {tail : List β}
    (hread : ∀ front c back, cs = front ++ c :: back →
      read (write c ++ (back.flatMap write ++ tail)) =
        .ok (value c, back.flatMap write ++ tail)) (n : Nat) (s : σ) :
    readEach read handle (cs.length + n) s (cs.flatMap write ++ tail) =
      (cs.map value).foldlM handle s >>= fun s' => readEach read handle n s' tail := by
  induction cs generalizing s with
  | nil =>
    rw [List.length_nil, Nat.zero_add]
    rfl
  | cons c cs ih =>
    have hfirst := hread [] c cs rfl
    obtain ⟨b, input, hinput⟩ := List.exists_cons_of_ne_nil (hne c)
    rw [hinput, List.cons_append] at hfirst
    rw [List.flatMap_cons, List.append_assoc, hinput, List.cons_append, List.length_cons,
      Nat.add_right_comm, readEach, hfirst, List.map_cons, List.foldlM_cons, bind_assoc]
    cases hs : handle s (value c) with
    | error err => simp only [hs]; rfl
    | ok s' =>
      simp only [hs]
      refine ih (fun front d back hsplit => hread (c :: front) d back ?_) s'
      rw [hsplit, List.cons_append]

theorem readEach_flatMap (hne : ∀ c, write c ≠ []) {cs : List γ}
    (hread : ∀ front c back, cs = front ++ c :: back →
      read (write c ++ back.flatMap write) = .ok (value c, back.flatMap write))
    {n : Nat} (hn : cs.length ≤ n) (s : σ) :
    readEach read handle n s (cs.flatMap write) = (cs.map value).foldlM handle s := by
  obtain ⟨k, rfl⟩ := Nat.exists_eq_add_of_le hn
  have h : readEach read handle (cs.length + k) s (cs.flatMap write ++ []) =
      (cs.map value).foldlM handle s >>= fun s' => readEach read handle k s' [] :=
    readEach_flatMap_append hne (by simpa using hread) k s
  have hend : (fun s' => readEach read handle k s' []) = pure := by
    funext s'
    cases k <;> rfl
  rwa [List.append_nil, hend, bind_pure] at h

end Written

/-- A fold that succeeds has handled every record. -/
theorem exists_of_foldlM_ok {handle : σ → γ → Except ε σ} {cs : List γ} {s s' : σ}
    (h : cs.foldlM handle s = .ok s') : ∀ c ∈ cs, ∃ s₁ s₂, handle s₁ c = .ok s₂ := by
  induction cs generalizing s with
  | nil => simp
  | cons c cs ih =>
    rw [List.foldlM_cons] at h
    cases hs : handle s c with
    | error err =>
      rw [hs] at h
      cases h
    | ok s₁ =>
      rw [hs] at h
      exact List.forall_mem_cons.mpr ⟨⟨s, s₁, hs⟩, ih h⟩

/-! ## Known records in any order -/

/-- Two records may be handled in either order. -/
def Commutes (handle : σ → γ → Except ε σ) (a b : γ) : Prop :=
  ∀ s, (handle s a >>= (handle · b)) = (handle s b >>= (handle · a))

instance (handle : σ → γ → Except ε σ) : Std.Symm (Commutes handle) where
  symm _ _ h s := (h s).symm

/-- Records whose handling cannot fail commute if the updates do. -/
theorem Commutes.of_pure {handle : σ → γ → Except ε σ} {a b : γ} {f g : σ → σ}
    (ha : ∀ s, handle s a = pure (f s)) (hb : ∀ s, handle s b = pure (g s))
    (hfg : ∀ s, g (f s) = f (g s)) : Commutes handle a b := by
  intro s
  simp only [ha, hb, pure_bind, hfg]

theorem foldlM_perm {handle : σ → γ → Except ε σ} {as bs : List γ} (h : as.Perm bs)
    (hcomm : ∀ a ∈ as, ∀ b ∈ as, Commutes handle a b) (s : σ) :
    as.foldlM handle s = bs.foldlM handle s := by
  induction h generalizing s with
  | nil => rfl
  | cons c _ ih =>
    rw [List.foldlM_cons, List.foldlM_cons]
    refine congrArg (handle s c >>= ·) (funext fun s' => ih ?_ s')
    exact fun a ha b hb => hcomm a (List.mem_cons_of_mem c ha) b (List.mem_cons_of_mem c hb)
  | swap a b rest =>
    have hab := hcomm b List.mem_cons_self a (List.mem_cons_of_mem b List.mem_cons_self) s
    simp only [List.foldlM_cons, ← bind_assoc, hab]
  | trans h₁ _ ih₁ ih₂ =>
    rw [ih₁ hcomm]
    refine ih₂ (fun a ha b hb => hcomm a (h₁.mem_iff.mpr ha) b (h₁.mem_iff.mpr hb)) s

theorem foldlM_of_ignored {handle : σ → γ → Except ε σ} {as : List γ}
    (h : ∀ a ∈ as, ∀ s, handle s a = pure s) (s : σ) : as.foldlM handle s = pure s := by
  induction as with
  | nil => rfl
  | cons a as ih =>
    rw [List.foldlM_cons, h a List.mem_cons_self]
    exact ih fun b hb => h b (List.mem_cons_of_mem a hb)

/-- The items are the known ones and others of other kinds, in any order. -/
structure Arrangement {κ : Type*} (kind : γ → κ) (known items : List γ) where
  others : List γ
  order : items.Perm (known ++ others)
  unknown : ∀ a ∈ others, ∀ k ∈ known, kind a ≠ kind k

/-- A handler that ignores records of other kinds sees the known ones only. -/
theorem Arrangement.foldlM_eq {κ : Type*} {kind : γ → κ} {known items : List γ}
    (arr : Arrangement kind known items) {handle : σ → γ → Except ε σ}
    (hignore : ∀ a, (∀ k ∈ known, kind a ≠ kind k) → ∀ s, handle s a = pure s)
    (hcomm : known.Pairwise (Commutes handle)) (s : σ) :
    items.foldlM handle s = known.foldlM handle s := by
  have hothers : ∀ a ∈ arr.others, ∀ s, handle s a = pure s :=
    fun a ha => hignore a (arr.unknown a ha)
  have hknown : ∀ a ∈ known, ∀ b ∈ known, Commutes handle a b := fun a ha b hb =>
    hcomm.forall_of_forall (fun _ _ _ => rfl) ha hb
  have hall : ∀ a ∈ items, ∀ b ∈ items, Commutes handle a b := by
    intro a ha b hb s
    rcases List.mem_append.mp (arr.order.mem_iff.mp ha) with ha | ha <;>
      rcases List.mem_append.mp (arr.order.mem_iff.mp hb) with hb | hb
    · exact hknown a ha b hb s
    · simp only [hothers b hb, pure_bind, bind_pure]
    · simp only [hothers a ha, pure_bind, bind_pure]
    · simp only [hothers a ha, hothers b hb]
  rw [foldlM_perm arr.order hall, List.foldlM_append]
  cases known.foldlM handle s with
  | error err => rfl
  | ok s' => exact foldlM_of_ignored hothers s'

end Hypeman.Foundations
