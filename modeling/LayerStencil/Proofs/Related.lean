import Mathlib.Data.List.Forall2
import Mathlib.Tactic.Common

/-! # Related lists and options

Two lists are related element by element (`List.Forall₂`), and two options if both are empty or hold
related values (`Option.Rel`). What reads related things gives related results. -/

namespace LayerStencil

variable {α β γ δ : Type}

/-! ### Lists -/

theorem map_eq_of_forall₂ {r : α → β → Prop} {f : α → γ} {g : β → γ} {s : List α} {s' : List β}
    (h : List.Forall₂ r s s') (hf : ∀ a b, r a b → f a = g b) : s.map f = s'.map g := by
  rw [← List.forall₂_eq_eq_eq]
  exact List.rel_map (fun a b hab => hf a b hab) h

theorem exists_of_forall₂_concat {r : α → β → Prop} {a : α} :
    ∀ {s : List α} {s' : List β}, List.Forall₂ r (s ++ [a]) s' →
      ∃ t b, s' = t ++ [b] ∧ List.Forall₂ r s t ∧ r a b
  | [], _, .cons ha .nil => ⟨[], _, rfl, .nil, ha⟩
  | _ :: _, _, .cons hb h => by
    obtain ⟨t, b, rfl, hs, ha⟩ := exists_of_forall₂_concat h
    exact ⟨_ :: t, b, rfl, .cons hb hs, ha⟩

theorem exists_mem_of_forall₂ {r : α → β → Prop} :
    ∀ {s : List α} {s' : List β}, List.Forall₂ r s s' → ∀ b ∈ s', ∃ a ∈ s, r a b
  | [], [], .nil, _, hb => by cases hb
  | _ :: _, _ :: _, .cons ha h, _, hb => by
    rcases List.mem_cons.mp hb with rfl | hb
    · exact ⟨_, List.mem_cons_self, ha⟩
    · obtain ⟨a, hmem, ha⟩ := exists_mem_of_forall₂ h _ hb
      exact ⟨a, List.mem_cons_of_mem _ hmem, ha⟩

/-! ### Options -/

theorem Option.rel_bind {r : α → β → Prop} {s : γ → δ → Prop} {x : Option α} {y : Option β}
    {f : α → Option γ} {g : β → Option δ} (h : Option.Rel r x y)
    (hfg : ∀ a b, r a b → Option.Rel s (f a) (g b)) : Option.Rel s (x >>= f) (y >>= g) := by
  cases h with
  | none => exact .none
  | some h => exact hfg _ _ h

theorem Option.rel_findSome? {r : β → γ → Prop} {f : α → Option β} {f' : α → Option γ}
    (h : ∀ a, Option.Rel r (f a) (f' a)) :
    ∀ s : List α, Option.Rel r (s.findSome? f) (s.findSome? f')
  | [] => .none
  | a :: s => by
    have ha := h a
    rw [List.findSome?_cons, List.findSome?_cons]
    generalize f a = x at ha ⊢
    generalize f' a = x' at ha ⊢
    cases ha with
    | some hab => exact .some hab
    | none => exact Option.rel_findSome? h s

end LayerStencil
