import Mathlib.Data.List.Lex
import Mathlib.Data.Prod.Lex
import StateMachine.Proofs.Validity

/-!
# The order of collisions

Arcs that share their exit are reported exit by exit: by state, then by event and guard, in the order of their texts.
-/

namespace StateMachine

/-! ## The order of texts -/

theorem Text.codeOf_injective : Function.Injective Text.codeOf := by
  intro c d h
  -- What stands for a surrogate is none itself, as no character is.
  have hc : c.toNat < 0xd800 ∨ 0xdfff < c.toNat ∧ c.toNat < 0x110000 := c.valid
  have hd : d.toNat < 0xd800 ∨ 0xdfff < d.toNat ∧ d.toNat < 0x110000 := d.valid
  unfold codeOf isSurrogate surrogateShift at h
  simp only [Bool.and_eq_true, decide_eq_true_eq] at h
  apply Char.toNat_inj.mp
  split at h <;> split at h <;> omega

theorem codePoints_injective : Function.Injective codePoints := by
  intro a b h
  exact String.toList_inj.mp (List.map_injective_iff.mpr Text.codeOf_injective h)

theorem textLe_iff (a b : String) : textLe a b = true ↔ codePoints a ≤ codePoints b := by
  rw [textLe, Bool.not_eq_true', decide_eq_false_iff_not]
  exact not_lt

namespace Workspace

/-! ## The order of exits -/

/-- The place of an exit among all: by state, then by event and guard. -/
def exitRank (key : String × String) : List ℕ ×ₗ List ℕ := toLex (codePoints key.1, codePoints key.2)

theorem exitRank_injective : Function.Injective exitRank := by
  rintro ⟨a, c⟩ ⟨b, d⟩ h
  obtain ⟨hstate, hevent⟩ := Prod.mk.inj (toLex.injective h)
  exact Prod.ext (codePoints_injective hstate) (codePoints_injective hevent)

theorem exitKeyLe_iff (a b : String × String) : exitKeyLe a b = true ↔ exitRank a ≤ exitRank b := by
  have hsame : codePoints a.1 = codePoints b.1 ↔ a.1 = b.1 := codePoints_injective.eq_iff
  rw [exitKeyLe, exitRank, exitRank, Prod.Lex.toLex_le_toLex, hsame]
  by_cases h : a.1 = b.1
  · simp [h, textLe_iff]
  · have hne : codePoints a.1 ≠ codePoints b.1 := fun heq => h (hsame.mp heq)
    simp [h, textLe_iff, hne.le_iff_lt]

/-! ## The groups in order -/

variable (ws : Workspace) (m : MachineRef)

theorem nodup_exits_collisions : ((ws.collisions m).map (·.1)).Nodup := by
  unfold collisions
  refine ((sorted_perm _ _).map _).nodup_iff.mpr (List.Nodup.sublist (List.filter_sublist.map _) ?_)
  rw [List.map_map]
  exact Assoc.nodup_keys_groupBy _ _

theorem ascending_collisions : ((ws.collisions m).map fun group => exitRank group.1).Pairwise (· < ·) := by
  have hle : (ws.collisions m).Pairwise (exitRank ·.1 ≤ exitRank ·.1) :=
    sorted_ascending (fun group : (String × String) × List EntityRef => exitRank group.1) _
      (fun _ _ => exitKeyLe_iff _ _) _
  have hne : (ws.collisions m).Pairwise (·.1 ≠ ·.1) := List.pairwise_map.mp (ws.nodup_exits_collisions m)
  rw [List.pairwise_map]
  refine hle.imp₂ ?_ hne
  exact fun a b hab hother => lt_of_le_of_ne hab (exitRank_injective.ne hother)

end Workspace

end StateMachine
