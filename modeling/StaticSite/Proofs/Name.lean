import Mathlib
import StaticSite.Name
import StaticSite.Proofs.Text.Utf8

set_option relaxedAutoImplicit false
set_option autoImplicit false

/-!
# Names in order and as they are shown

Names are sorted byte by byte. A text that is used as a name is shown as that text, and bytes with
slashes between them are shown one by one with slashes between them.

## Main results

* `StaticSite.Name.atMost_iff` — the comparison of names is the lexicographic order.
* `StaticSite.Name.pairwise_sort_of_nodup` — a sorted list without repetitions is in strict order.
* `StaticSite.Name.text_encode` — a text is shown as it is.
* `StaticSite.Name.decodeWithReplacement_joinWith` — joined bytes are shown one by one.
-/

namespace StaticSite.Name

@[simp]
lemma slash_ne_dot : slash ≠ dot := by decide

@[simp]
lemma dot_ne_slash : dot ≠ slash := by decide

/-! ## Order -/

/-- The comparison of names is the lexicographic order of their bytes. -/
lemma atMost_iff (m n : Name) : atMost m n = true ↔ m ≤ n := by
  rw [← List.not_lt]
  induction m generalizing n with
  | nil => simp [atMost]
  | cons a m ih =>
    cases n with
    | nil => simp [atMost]
    | cons b n =>
      unfold atMost
      rw [List.cons_lt_cons_iff]
      by_cases h : a = b
      · simp [h, ih]
      · have hba : ¬b = a := fun hba => h hba.symm
        simp only [h, if_false, hba, false_and, or_false, decide_eq_true_eq, UInt8.not_lt]
        exact ⟨UInt8.le_of_lt, fun hle => UInt8.lt_of_le_of_ne hle h⟩

/-- A sorted list is in order. -/
private lemma pairwise_sort (ns : List Name) : (sort ns).Pairwise (· ≤ ·) := by
  have h : (ns.mergeSort atMost).Pairwise fun a b => atMost a b = true := by
    refine List.pairwise_mergeSort ?_ ?_ ns
    · intro a b c
      simp only [atMost_iff]
      exact List.le_trans
    · intro a b
      simp only [Bool.or_eq_true, atMost_iff]
      exact List.le_total a b
  exact h.imp fun {a b} hab => (atMost_iff a b).1 hab

/-- Sorting neither adds nor drops a name. -/
lemma mem_sort {ns : List Name} {n : Name} : n ∈ sort ns ↔ n ∈ ns :=
  List.mem_mergeSort

/-- A name does not come before itself. -/
lemma ne_of_lt {m n : Name} (h : m < n) : m ≠ n := by
  rintro rfl
  exact List.lt_irrefl m h

/-- A sorted list without repetitions is in strict order. -/
lemma pairwise_sort_of_nodup {ns : List Name} (h : ns.Nodup) : (sort ns).Pairwise (· < ·) := by
  have hnodup : (sort ns).Nodup := (List.mergeSort_perm ns atMost).nodup_iff.2 h
  exact ((pairwise_sort ns).and hnodup).imp fun hab => Std.lt_of_le_of_ne hab.1 hab.2

/-- Lists in strict order are the same if they have the same members. -/
lemma eq_of_mem_iff {ms ns : List Name} (hms : ms.Pairwise (· < ·)) (hns : ns.Pairwise (· < ·))
    (h : ∀ n, n ∈ ms ↔ n ∈ ns) : ms = ns := by
  have hperm : ms.Perm ns := by
    rw [List.perm_ext_iff_of_nodup (hms.imp ne_of_lt) (hns.imp ne_of_lt)]
    exact h
  apply hperm.eq_of_pairwise _ hms hns
  intro m n _ _ hmn hnm
  exact absurd hnm (List.lt_asymm hmn)

/-! ## Names as they are shown -/

/-- A text that is used as a name is shown as it is. -/
@[simp]
lemma text_encode (t : Text) : text (Utf8.encode t) = t := Utf8.decodeWithReplacement_encode t

/-- A name is what is shown of it exactly if it is a text. -/
lemma encode_text_iff {n : Name} : Utf8.encode n.text = n ↔ ∃ t, n = Utf8.encode t := by
  constructor
  · intro h
    exact ⟨n.text, h.symm⟩
  · rintro ⟨t, rfl⟩
    rw [text_encode]

/-- A slash separates what is shown before it from what is shown behind it. -/
lemma decodeWithReplacement_append_slash (front back : List UInt8) :
    Utf8.decodeWithReplacement (front ++ slash :: back) =
      Utf8.decodeWithReplacement front ++ '/' :: Utf8.decodeWithReplacement back :=
  Utf8.decodeWithReplacement_append_cons (by decide) front back

/-- A dot separates what is shown before it from what is shown behind it. -/
lemma decodeWithReplacement_append_dot (front back : List UInt8) :
    Utf8.decodeWithReplacement (front ++ dot :: back) =
      Utf8.decodeWithReplacement front ++ '.' :: Utf8.decodeWithReplacement back :=
  Utf8.decodeWithReplacement_append_cons (by decide) front back

/-- **Bytes with slashes between them** are shown with slashes between them. -/
lemma decodeWithReplacement_joinWith (parts : List (List UInt8)) :
    Utf8.decodeWithReplacement (Text.joinWith [slash] parts) =
      Text.joinWith ['/'] (parts.map Utf8.decodeWithReplacement) := by
  induction parts with
  | nil => simp [Text.joinWith]
  | cons part parts ih =>
    cases parts with
    | nil => simp [Text.joinWith]
    | cons next parts =>
      have hcons : Text.joinWith [slash] (part :: next :: parts) =
          part ++ slash :: Text.joinWith [slash] (next :: parts) := by
        simp [Text.joinWith]
      rw [hcons, decodeWithReplacement_append_slash, ih]
      simp [Text.joinWith]

end StaticSite.Name
