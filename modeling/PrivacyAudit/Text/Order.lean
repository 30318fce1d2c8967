import PrivacyAudit.Text.Utf8

/-!
# The order of texts

Texts are ordered by their UTF-8 bytes. The order is strict and total.
-/

namespace PrivacyAudit.Text

/-- One text stands before another when its bytes do. -/
def Before (s t : String) : Prop := encode s < encode t

instance (s t : String) : Decidable (Before s t) :=
  inferInstanceAs (Decidable (encode s < encode t))

/-- A text is determined by its bytes. -/
theorem encode_inj {s t : String} (h : encode s = encode t) : s = t := by
  unfold encode String.toUTF8 at h
  exact String.toByteArray_inj.1 (ByteArray.ext (Array.toList_inj.1 h))

theorem Before.irrefl (s : String) : ¬ Before s s := List.lt_irrefl _

theorem Before.trans {s t u : String} (h : Before s t) (h' : Before t u) : Before s u :=
  List.lt_trans h h'

/-- Of two different texts one stands before the other. -/
theorem Before.total {s t : String} (h : ¬ Before s t) (hne : s ≠ t) : Before t s :=
  Std.lt_of_le_of_ne h fun he => hne (encode_inj he).symm

end PrivacyAudit.Text
