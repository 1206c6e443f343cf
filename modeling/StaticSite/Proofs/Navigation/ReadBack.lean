import Mathlib
import StaticSite.Navigation.List
import StaticSite.Proofs.Html.Escape
import StaticSite.Proofs.Text.BreakOn

set_option relaxedAutoImplicit false
set_option autoImplicit false

/-!
# Reading a navigation list

A navigation list is read back item by item: the target of a link ends at the quotation mark that is
written behind it, since the escaped target holds none, and what the link shows ends at the next
tag. So a list tells its links apart, whatever characters their targets hold. A title is not
escaped, and the list can be read if no title holds the character that opens tags.

## Main definitions

* `StaticSite.Navigation.readItem?`, `StaticSite.Navigation.readList?` — the links of a list, each
  with its target and what it shows.
* `StaticSite.Text.occurrences` — how often a pattern stands in a text.

## Main results

* `StaticSite.Navigation.readList?_render` — the links of a list are read back.
* `StaticSite.Navigation.markup_render` — no target adds markup.
* `StaticSite.Navigation.render_read_back` — a list shows its links and nothing else.
-/

namespace StaticSite

namespace Text

/-- How often a pattern stands in a text. -/
def occurrences (pattern t : Text) : Nat := t.tails.countP (pattern.isPrefixOf ·)

/-- A pattern that stands at the start of a text stands in it once more. -/
private lemma occurrences_cons (pattern : Text) (c : Char) (t : Text) :
    occurrences pattern (c :: t) =
      occurrences pattern t + if pattern.isPrefixOf (c :: t) then 1 else 0 := by
  rw [occurrences, List.tails_cons, List.countP_cons]
  rfl

/-- Characters that the pattern does not start with do not matter. -/
private lemma occurrences_append {c : Char} {p u : Text} (h : c ∉ u) (t : Text) :
    occurrences (c :: p) (u ++ t) = occurrences (c :: p) t := by
  induction u with
  | nil => rfl
  | cons a u ih =>
    obtain ⟨hc, hu⟩ := not_or.1 (List.mem_cons.not.1 h)
    rw [List.cons_append, occurrences_cons, ih hu]
    simp [hc]

end Text

namespace Navigation

open StaticSite.Html (escapeQuoted isMarkup notMem_escapeQuoted unescape unescape_escapeQuoted)
open StaticSite.Text (breakOn dropPrefix? dropPrefix?_eq_some_iff occurrences occurrences_cons
  occurrences_append)

/-! ## Items -/

/-- What stands in front of the target of a link. -/
def itemOpening : Text := "<li><a href=\"".toList

/-- What stands behind the text that a link shows. -/
def itemClosing : Text := '<' :: "/a></li>".toList

/-- What stands in front of the first item. -/
def listOpening : Text := "<ul>".toList

/-- What stands behind the last item. -/
def listClosing : Text := "</ul>".toList

/-- The opening tag of an item. -/
def itemTag : Text := ['<', 'l', 'i', '>']

/-- What a list tells about a link: its target, and its title or else the escaped target. -/
def told (link : NavLink) : Text × Text := (link.href, link.title.getD (escapeQuoted link.href))

/-- What a link shows is told about it. -/
private lemma told_eq (link : NavLink) : told link = (link.href, label link) := by
  unfold told label
  cases link.title <;> rfl

/-- The parts of an item. -/
private lemma renderLink_eq (link : NavLink) : renderLink link =
    itemOpening ++ (escapeQuoted link.href ++ ('"' :: '>' :: (label link ++ itemClosing))) := by
  have hquote : "\">".toList = ['"', '>'] := by decide
  have hclosing : "</a></li>".toList = itemClosing := by decide
  unfold renderLink itemOpening
  simp only [hquote, hclosing, List.append_assoc, List.cons_append, List.nil_append]

/-- A title holds no tag, so that what a link shows ends where its item does. -/
def HasPlainTitle (link : NavLink) : Prop := ∀ title ∈ link.title, '<' ∉ title

/-- What such a link shows holds no tag. -/
private lemma HasPlainTitle.notMem_label {link : NavLink} (h : HasPlainTitle link) :
    '<' ∉ label link := by
  unfold label
  cases htitle : link.title with
  | some title => exact h title htitle
  | none => exact notMem_escapeQuoted rfl link.href

/-! ## Reading -/

/-- The text between an opening and the first closing behind it, and the text behind that. -/
def between? (opening closing t : Text) : Option (Text × Text) :=
  (dropPrefix? opening t).bind (breakOn closing)

/-- The target of the first link and what it shows, and the text behind its item. -/
def readItem? (t : Text) : Option ((Text × Text) × Text) := do
  let (target, rest) ← between? itemOpening ['"'] t
  let (shown, rest) ← between? ['>'] itemClosing rest
  some ((unescape target, shown), rest)

/-- What stands behind a part is shorter than the text. -/
private lemma length_of_between? {opening closing t part rest : Text} (hne : closing ≠ [])
    (h : between? opening closing t = some (part, rest)) : rest.length < t.length := by
  obtain ⟨u, hdrop, hbreak⟩ := Option.bind_eq_some_iff.1 h
  have hlength := Text.length_of_breakOn hbreak
  have hpos := List.length_pos_iff.2 hne
  rw [dropPrefix?_eq_some_iff.1 hdrop, List.length_append]
  omega

/-- What stands behind an item is shorter than the text. -/
private lemma length_of_readItem? {t rest : Text} {item : Text × Text}
    (h : readItem? t = some (item, rest)) : rest.length < t.length := by
  simp only [readItem?, Option.bind_eq_bind, Option.bind_eq_some_iff] at h
  obtain ⟨⟨target, u⟩, htarget, ⟨shown, v⟩, hshown, heq⟩ := h
  obtain ⟨-, rfl⟩ : _ = item ∧ v = rest := by simpa using heq
  exact (length_of_between? (List.cons_ne_nil _ _) hshown).trans
    (length_of_between? (List.cons_ne_nil _ _) htarget)

/-- The links of a list without its opening tag. -/
def readItems? (t : Text) : Option (List (Text × Text)) :=
  match _h : readItem? t with
  | some (item, rest) => (readItems? rest).map (item :: ·)
  | none => if t = listClosing then some [] else none
termination_by t.length
decreasing_by exact length_of_readItem? _h

/-- The links of a list: for each of them its target and what it shows. -/
def readList? (t : Text) : Option (List (Text × Text)) :=
  (dropPrefix? listOpening t).bind readItems?

/-- What is written between an opening and a closing is read, whatever follows. -/
private lemma between?_eq {c : Char} {p part : Text} (hc : c ∉ part) (opening w : Text) :
    between? opening (c :: p) (opening ++ (part ++ (c :: p ++ w))) = some (part, w) := by
  have hdrop : dropPrefix? opening (opening ++ (part ++ (c :: p ++ w))) =
      some (part ++ (c :: p ++ w)) := dropPrefix?_eq_some_iff.2 rfl
  rw [between?, hdrop, Option.bind_some, Text.breakOn_of_notMem hc]

/-- An item is read back, whatever follows. -/
private lemma readItem?_renderLink {link : NavLink} (h : HasPlainTitle link) (w : Text) :
    readItem? (renderLink link ++ w) = some (told link, w) := by
  have hitem : renderLink link ++ w = itemOpening ++ (escapeQuoted link.href ++
      (['"'] ++ (['>'] ++ (label link ++ (itemClosing ++ w))))) := by
    simp [renderLink_eq]
  have hhref : '"' ∉ escapeQuoted link.href := notMem_escapeQuoted rfl link.href
  have htarget := between?_eq (p := []) hhref itemOpening
    (['>'] ++ (label link ++ (itemClosing ++ w)))
  have hshown : between? ['>'] itemClosing (['>'] ++ (label link ++ (itemClosing ++ w))) =
      some (label link, w) := between?_eq h.notMem_label ['>'] w
  rw [hitem]
  simp only [readItem?, htarget, hshown, Option.bind_eq_bind, Option.bind_some,
    unescape_escapeQuoted, told_eq]

/-- The end of a list is no item. -/
private lemma readItems?_listClosing : readItems? listClosing = some [] := by
  have hnone : readItem? listClosing = none := by decide
  rw [readItems?]
  split
  · next hitem =>
    rw [hnone] at hitem
    cases hitem
  · rw [if_pos rfl]

/-- An item that is read is the first of the list. -/
private lemma readItems?_of_item {t rest : Text} {item : Text × Text}
    (h : readItem? t = some (item, rest)) : readItems? t = (readItems? rest).map (item :: ·) := by
  rw [readItems?]
  split
  · next item' rest' h' =>
    rw [h] at h'
    cases h'
    rfl
  · next h' =>
    rw [h] at h'
    cases h'

/-- **The links of a list are read back.** -/
theorem readList?_render {links : List NavLink} (h : ∀ link ∈ links, HasPlainTitle link) :
    readList? (render links) = some (links.map told) := by
  have hitems : readItems? (links.flatMap renderLink ++ listClosing) = some (links.map told) := by
    induction links with
    | nil => exact readItems?_listClosing
    | cons link links ih =>
      obtain ⟨hlink, hlinks⟩ := List.forall_mem_cons.1 h
      rw [List.flatMap_cons, List.append_assoc, readItems?_of_item (readItem?_renderLink hlink _),
        ih hlinks, Option.map_some, List.map_cons]
  have hdrop : dropPrefix? listOpening (render links) =
      some (links.flatMap renderLink ++ listClosing) :=
    dropPrefix?_eq_some_iff.2 (List.append_assoc ..)
  rw [readList?, hdrop, Option.bind_some, hitems]

/-! ## Markup -/

/-- A tag that is no opening tag of an item, and what stands behind it up to the next tag, holds
none. -/
private lemma occurrences_tag {c : Char} {u : Text} (hc : c ≠ 'l') (hu : '<' ∉ c :: u) (t : Text) :
    occurrences itemTag ('<' :: c :: u ++ t) = occurrences itemTag t := by
  have hstart : itemTag.isPrefixOf ('<' :: (c :: u ++ t)) = false := by
    simp [itemTag, List.isPrefixOf, Ne.symm hc]
  rw [List.cons_append, occurrences_cons, hstart, itemTag, occurrences_append hu]
  rfl

/-- An item holds one opening tag of an item.

**Proof sketch.** The item starts with its tag, and its other tags start differently. No bracket
stands in the target, which is escaped, nor in the label, so no other tag starts there. -/
private lemma occurrences_renderLink {link : NavLink} (h : HasPlainTitle link) (w : Text) :
    occurrences itemTag (renderLink link ++ w) = occurrences itemTag w + 1 := by
  set target := " href=\"".toList ++ (escapeQuoted link.href ++ ('"' :: '>' :: label link))
    with htarget
  have hopening : itemOpening = itemTag ++ ('<' :: 'a' :: " href=\"".toList) := by decide
  have hclosing : itemClosing = ('<' :: '/' :: ['a', '>']) ++ ('<' :: '/' :: ['l', 'i', '>']) := by
    decide
  have hitem : renderLink link ++ w = itemTag ++ ('<' :: 'a' :: target ++
      ('<' :: '/' :: ['a', '>'] ++ ('<' :: '/' :: ['l', 'i', '>'] ++ w))) := by
    simp only [renderLink_eq, hopening, hclosing, htarget, List.append_assoc, List.cons_append,
      List.nil_append]
  have hattribute : '<' ∉ " href=\"".toList := by decide
  have hhref : '<' ∉ escapeQuoted link.href := notMem_escapeQuoted rfl link.href
  have hnotMem : '<' ∉ 'a' :: target := by
    simp only [htarget, List.mem_cons, List.mem_append, not_or]
    exact ⟨by decide, hattribute, hhref, by decide, by decide, h.notMem_label⟩
  have htag : ∀ t, occurrences itemTag (itemTag ++ t) = occurrences itemTag t + 1 := by
    intro t
    have hstart : itemTag.isPrefixOf (itemTag ++ t) = true :=
      List.isPrefixOf_iff_prefix.2 (List.prefix_append ..)
    have hrest : '<' ∉ ['l', 'i', '>'] := by decide
    have hcons : itemTag ++ t = '<' :: (['l', 'i', '>'] ++ t) := rfl
    rw [hcons] at hstart ⊢
    rw [occurrences_cons, if_pos hstart, itemTag, occurrences_append hrest]
  rw [hitem, htag, occurrences_tag (by decide) hnotMem, occurrences_tag (by decide) (by decide),
    occurrences_tag (by decide) (by decide)]

/-- The opening tag of an item stands in a list once for each link. -/
private lemma occurrences_render {links : List NavLink} (h : ∀ link ∈ links, HasPlainTitle link) :
    occurrences itemTag (render links) = links.length := by
  have hitems : occurrences itemTag (links.flatMap renderLink ++ listClosing) = links.length := by
    induction links with
    | nil => decide
    | cons link links ih =>
      obtain ⟨hlink, hlinks⟩ := List.forall_mem_cons.1 h
      rw [List.flatMap_cons, List.append_assoc, occurrences_renderLink hlink, ih hlinks,
        List.length_cons]
  have hlist : render links =
      '<' :: 'u' :: ['l', '>'] ++ (links.flatMap renderLink ++ listClosing) := List.append_assoc ..
  rw [hlist, occurrences_tag (by decide) (by decide), hitems]

/-- The markup of an item is that around the target and that of the title. -/
private lemma markup_renderLink (link : NavLink) : (renderLink link).filter isMarkup =
    itemOpening.filter isMarkup ++ ('"' :: '>' :: ((link.title.getD []).filter isMarkup ++
      itemClosing.filter isMarkup)) := by
  have hescaped : (escapeQuoted link.href).filter isMarkup = [] :=
    List.filter_eq_nil_iff.2 fun c hc hmarkup => notMem_escapeQuoted hmarkup link.href hc
  have hlabel : (label link).filter isMarkup = (link.title.getD []).filter isMarkup := by
    unfold label
    cases link.title with
    | some title => rfl
    | none => exact hescaped
  have hquote : isMarkup '"' = true := rfl
  have hend : isMarkup '>' = true := rfl
  rw [renderLink_eq, List.filter_append, List.filter_append, hescaped,
    List.filter_cons_of_pos hquote, List.filter_cons_of_pos hend, List.filter_append, hlabel,
    List.nil_append]

/-- **No target adds markup**: the markup of a list is that of every list with the same titles. -/
theorem markup_render {links links' : List NavLink}
    (h : links'.map NavLink.title = links.map NavLink.title) :
    (render links').filter isMarkup = (render links).filter isMarkup := by
  have hitems : ∀ ls : List NavLink, (ls.flatMap renderLink).filter isMarkup =
      (ls.map NavLink.title).flatMap fun title => itemOpening.filter isMarkup ++
        ('"' :: '>' :: ((title.getD []).filter isMarkup ++ itemClosing.filter isMarkup)) := by
    intro ls
    rw [List.filter_flatMap, List.flatMap_map]
    exact List.flatMap_congr fun link _ => markup_renderLink link
  rw [render, render, List.filter_append, List.filter_append, List.filter_append,
    List.filter_append, hitems, hitems, h]

/-! ## Lists -/

/-- A list is made of what it tells about its links. -/
private lemma render_eq_iff {links links' : List NavLink} (h : ∀ link ∈ links, HasPlainTitle link)
    (h' : ∀ link ∈ links', HasPlainTitle link) :
    render links' = render links ↔ links'.map told = links.map told := by
  constructor
  · intro heq
    have hread := readList?_render h'
    rw [heq, readList?_render h] at hread
    exact (Option.some.inj hread).symm
  · intro heq
    have hitems : ∀ ls : List NavLink, ls.flatMap renderLink = (ls.map told).flatMap fun t =>
        itemOpening ++ (escapeQuoted t.1 ++ ('"' :: '>' :: (t.2 ++ itemClosing))) := by
      intro ls
      rw [List.flatMap_map]
      exact List.flatMap_congr fun link _ => by rw [told_eq, renderLink_eq]
    rw [render, render, hitems, hitems, heq]

/-- **A navigation list can be read back**, if no title holds a tag. For every link, in order, the
target is found by reading the escaped attribute, and with it the title as it is, or the escaped
target of a link without one. There is one item for each link, two lists that tell different things
do not look alike, no target ends its attribute, and none adds markup to the list.

**Proof sketch.** The reader takes an item apart at the characters that neither an escaped target
nor a plain title holds, and goes on behind it (`readList?_render`). As a list is made of what it
tells, two lists that look alike tell the same; and what a target adds to the list holds no
character of markup. -/
theorem render_read_back {links : List NavLink} (h : ∀ link ∈ links, HasPlainTitle link) :
    readList? (render links) =
        some (links.map fun link => (link.href, link.title.getD (escapeQuoted link.href))) ∧
      occurrences itemTag (render links) = links.length ∧
      (∀ links', (∀ link ∈ links', HasPlainTitle link) → (render links' = render links ↔
        links'.map told = links.map told)) ∧
      (∀ link ∈ links, ∀ c, isMarkup c = true → c ∉ escapeQuoted link.href) ∧
      ∀ links', links'.map NavLink.title = links.map NavLink.title →
        (render links').filter isMarkup = (render links).filter isMarkup :=
  ⟨readList?_render h, occurrences_render h, fun _ h' => render_eq_iff h h',
    fun link _ _ hc => notMem_escapeQuoted hc link.href, fun _ h' => markup_render h'⟩

/-- A target that tries to end its attribute, and one that looks like a reference. -/
def oddTargets : List NavLink :=
  [⟨"\"><li>&lt;".toList, none⟩, ⟨"&quot;".toList, some "a > \"b\" &amp;".toList⟩]

/-- Both targets are read back, and so are the escaped target of the first and the title of the
second; there are two items. -/
theorem render_read_back_oddTargets :
    readList? (render oddTargets) = some
        [("\"><li>&lt;".toList, "&quot;&gt;&lt;li&gt;&amp;lt;".toList),
          ("&quot;".toList, "a > \"b\" &amp;".toList)] ∧
      occurrences itemTag (render oddTargets) = 2 ∧
      render oddTargets ≠ render (oddTargets.map fun link => ⟨[], link.title⟩) := by
  have hplain : ∀ link ∈ oddTargets, HasPlainTitle link := by
    simp [oddTargets, HasPlainTitle]
  have hplain' : ∀ link ∈ oddTargets.map (fun link => ⟨[], link.title⟩), HasPlainTitle link := by
    simp [oddTargets, HasPlainTitle]
  obtain ⟨hread, hitems, hother, -⟩ := render_read_back hplain
  refine ⟨hread.trans (by cbv), hitems, fun heq => ?_⟩
  have htold := (hother _ hplain').1 heq.symm
  simp [oddTargets, told] at htold

end Navigation

end StaticSite
