import Mathlib.Data.Finset.Max

/-!
# Deadlocks of exclusive locks

Owners hold resources and each waits for at most a few of them. A deadlock is a set of owners each
of which waits for a resource that another one of the set holds. If resources have ranks and nobody
in the set waits for a resource that ranks below one it holds, there is no deadlock: the owner that
waits for the resource of the greatest rank waits for one whose holder waits for a greater one.
-/

set_option autoImplicit false
set_option relaxedAutoImplicit false

namespace YandexPay

/-- Who holds what, and who waits for what. -/
structure LockGraph (α ρ : Type*) where
  holds : α → ρ → Prop
  awaits : α → ρ → Prop

namespace LockGraph

variable {α ρ ι : Type*} (g : LockGraph α ρ)

/-- Each owner of the set waits for a resource that another one of the set holds. -/
structure Deadlocked (owners : Finset α) : Prop where
  nonempty : owners.Nonempty
  waits : ∀ a ∈ owners, ∃ r, g.awaits a r ∧ ∃ b ∈ owners, b ≠ a ∧ g.holds b r

/-- The owner waits only for resources that rank above those it holds. -/
def Ascends [LT ι] (rank : ρ → ι) (a : α) : Prop :=
  ∀ r, g.holds a r → ∀ r', g.awaits a r' → rank r < rank r'

variable {g}

theorem Deadlocked.exists_not_ascends [LinearOrder ι] {owners : Finset α}
    (h : g.Deadlocked owners) (rank : ρ → ι) : ∃ a ∈ owners, ¬g.Ascends rank a := by
  by_contra hascends
  push Not at hascends
  have hawaited : ∀ a : owners, ∃ r, g.awaits a r ∧ ∃ b ∈ owners, b ≠ ↑a ∧ g.holds b r :=
    fun a ↦ h.waits a a.2
  choose awaited hawaits holder hmem _ hholds using hawaited
  have hnonempty : owners.attach.Nonempty := Finset.attach_nonempty_iff.mpr h.nonempty
  obtain ⟨a, -, hmax⟩ := owners.attach.exists_max_image (fun a ↦ rank (awaited a)) hnonempty
  have hlt : rank (awaited a) < rank (awaited ⟨holder a, hmem a⟩) :=
    hascends (holder a) (hmem a) (awaited a) (hholds a) _ (hawaits ⟨holder a, hmem a⟩)
  exact absurd (hmax ⟨holder a, hmem a⟩ (Finset.mem_attach _ _)) (not_le.mpr hlt)

end LockGraph

end YandexPay
