import ControlLoop.Network.Session.Basic
import ControlLoop.Proofs.Lists
import ControlLoop.Proofs.Text.Hex
import Mathlib.Algebra.Ring.Nat

/-!
# Client ids

The name of a family, a dash and a seed in base sixteen always fit into a client id, so no id is cut short. The digits
hold no dash, so that the last dash of an id is the one before its seed, and both parts can be told from the id.
-/

namespace ControlLoop

set_option autoImplicit false

theorem BoundedText.text_appendAll {capacity : Nat} {t : BoundedText capacity} {pieces : List String}
    (fits : t.text.utf8ByteSize + (pieces.map String.utf8ByteSize).sum ≤ capacity) :
    (t.appendAll pieces).text = pieces.foldl (· ++ ·) t.text := by
  induction pieces generalizing t with
  | nil => rfl
  | cons piece rest ih =>
    rw [List.map_cons, List.sum_cons, ← Nat.add_assoc, ← String.utf8ByteSize_append] at fits
    have hpiece : (t.text ++ piece).utf8ByteSize ≤ capacity := Nat.le_of_add_right_le fits
    have hlonger : t.append? piece = some ⟨t.text ++ piece, hpiece⟩ := dif_pos hpiece
    rw [appendAll, hlonger]
    exact ih fits

namespace Session

variable {τ ε η : Type}

theorem text_clientIdOf (family : BoundedText 32) (seed : UInt16) :
    (clientIdOf family seed).text = family.text ++ "-" ++ Hex.text seed.toNat := by
  have hnumeral := Hex.numeral_digits seed.toNat
  have hlength : (Hex.digits seed.toNat).length ≤ 4 := Hex.length_digits_le (by decide) seed.toNat_lt
  have hsize : (Hex.text seed.toNat).utf8ByteSize = (Hex.digits seed.toNat).length := hnumeral.size
  have hdash : "-".utf8ByteSize = 1 := rfl
  have hfamily := family.fits
  have hempty : (BoundedText.empty : BoundedText 40).text = "" := rfl
  rw [clientIdOf, BoundedText.text_appendAll]
  · simp only [List.foldl_cons, List.foldl_nil, hempty, String.empty_append]
  · simp only [List.map_cons, List.map_nil, List.sum_cons, List.sum_nil, hempty, String.utf8ByteSize_empty, hdash,
      hsize]
    omega

theorem toList_clientIdOf (family : BoundedText 32) (seed : UInt16) :
    (clientIdOf family seed).text.toList = family.text.toList ++ '-' :: Hex.digits seed.toNat := by
  have hdash : "-".toList = ['-'] := rfl
  rw [text_clientIdOf, String.toList_append, String.toList_append, hdash, Hex.text, String.toList_ofList,
    List.append_assoc, List.singleton_append]

theorem clientIdOf_inj {family family' : BoundedText 32} {seed seed' : UInt16}
    (h : (clientIdOf family seed).text = (clientIdOf family' seed').text) : family = family' ∧ seed = seed' := by
  have hnumeral := Hex.numeral_digits seed.toNat
  have hnumeral' := Hex.numeral_digits seed'.toNat
  rw [← String.toList_inj, toList_clientIdOf, toList_clientIdOf] at h
  obtain ⟨hfamily, hdigits⟩ := Lists.append_cons_inj_of_not_mem hnumeral.dash_not_mem hnumeral'.dash_not_mem h
  have hseed : seed.toNat = seed'.toNat := by rw [← hnumeral.value, ← hnumeral'.value, hdigits]
  cases family
  cases family'
  cases String.toList_inj.mp hfamily
  exact ⟨rfl, UInt16.toNat_inj.mp hseed⟩

/-- The client id of a session is the name of its family, a dash and the numeral of its seed, in full. Two sessions have
one client id only if they have one family and one seed. -/
theorem client_ids_complete_and_distinct (transport transport' : τ) (settings settings' : Settings)
    (seed seed' : UInt16) :
    (∃ digits, Hex.Numeral seed.toNat digits ∧
      (start transport settings seed : Journal (Event ε η) (Session τ η)).value.clientId.text =
        settings.clientFamily.text ++ "-" ++ String.ofList digits) ∧
    ((start transport settings seed : Journal (Event ε η) (Session τ η)).value.clientId =
        (start transport' settings' seed' : Journal (Event ε η) (Session τ η)).value.clientId ↔
      settings.clientFamily = settings'.clientFamily ∧ seed = seed') := by
  refine ⟨⟨Hex.digits seed.toNat, Hex.numeral_digits _, text_clientIdOf _ _⟩, ?_⟩
  constructor
  · intro h
    exact clientIdOf_inj (congrArg BoundedText.text h)
  · rintro ⟨hfamily, rfl⟩
    exact congrArg (clientIdOf · seed) hfamily

end Session

end ControlLoop
