import Mathlib
import StaticSite.Proofs.Frontmatter.Block

set_option relaxedAutoImplicit false
set_option autoImplicit false

/-!
# Reading back what was written

Metadata and a body can be written as a document in many layouts: with an opening fence or without,
with indented keys in letters of any case, white space around the values, continuations for some of
them, several lines that end the block, and two ways to end a line. All of them are read back as
what was written.

## Main definitions

* `StaticSite.Frontmatter.Item` — a key and a value that a line can hold.
* `StaticSite.Frontmatter.WritesItem` — the layouts of the line of an item.
* `StaticSite.Frontmatter.WritesBlock` — the layouts of the items and of what ends them.
* `StaticSite.Frontmatter.WritesDocument` — the layouts of a document.

## Main results

* `StaticSite.Frontmatter.exists_writesDocument` — every list of items and every body can be
  written.
* `StaticSite.Frontmatter.WritesBlock.readLines_eq` — the lines are read as the items.
* `StaticSite.Frontmatter.split_written` — a document is read back as what was written.
-/

namespace StaticSite.Frontmatter

/-! ## What is written -/

/-- A key and a value that a line can hold. -/
structure Item where
  /-- The key, in letters of any case. -/
  key : Text
  /-- The value. -/
  value : Text
  /-- There is a key. -/
  key_ne_nil : key ≠ []
  /-- It is made of the characters of keys. -/
  isKeyChar_of_mem : ∀ c ∈ key, isKeyChar c = true
  /-- No white space is at the ends of the value. -/
  trim_value : Text.trim value = value
  /-- The value is on one line. -/
  notMem_value : '\n' ∉ value

/-- The key in small letters. -/
def Item.name (e : Item) : Text := Text.toLowerAscii e.key

/-- White space on one line. -/
def IsGap (t : Text) : Prop := ∀ c ∈ t, Text.isWhiteSpace c = true ∧ c ≠ '\n'

/-- The end of a line in front of a text: a line feed, perhaps behind a carriage return. The last
line may lack it. -/
inductive LineEnd : Text → Text → Prop where
  /-- A line feed. -/
  | feed {rest : Text} : LineEnd ['\n'] rest
  /-- A carriage return and a line feed. -/
  | returnFeed {rest : Text} : LineEnd ['\r', '\n'] rest
  /-- Nothing, at the end of the document. -/
  | missing : LineEnd [] []

/-- The line of an item without its end, behind the line of a key: a key line, or a continuation if
the key is the one before it. -/
inductive WritesItem : Option Text → Item → Text → Prop where
  /-- At most three spaces, the key in letters of any case, a colon, and the value in white
  space. -/
  | keyLine {previous : Option Text} {e : Item} {indent : Nat} {spelling before behind : Text}
      (hindent : indent ≤ 3) (hspelling : Text.toLowerAscii spelling = e.name)
      (hbefore : IsGap before) (hbehind : IsGap behind) :
      WritesItem previous e
        (List.replicate indent ' ' ++ (spelling ++ ':' :: (before ++ e.value ++ behind)))
  /-- At least four spaces, the value if there is one, and white space. -/
  | continuation {e : Item} {indent : Nat} {behind : Text} (hindent : 4 ≤ indent)
      (hvalue : e.value ≠ []) (hbehind : IsGap behind) :
      WritesItem (some e.name) e (List.replicate indent ' ' ++ (e.value ++ behind))

/-- The end of a block and the body behind it. -/
inductive WritesBody (body : Text) : Text → Prop where
  /-- A blank line or a fence in front of the body. -/
  | terminator {line ending : Text} (hline : IsTerminator line) (hfeed : '\n' ∉ line)
      (hending : LineEnd ending body) : WritesBody body (line ++ ending ++ body)
  /-- The body alone, if there is none or its first line has no form of a block. -/
  | bare (hfirst : ∀ line ∈ (Text.lines body).head?, ¬IsTerminator line ∧
      (∀ key value, ¬IsKeyLine line key value) ∧ ¬List.replicate 4 ' ' <+: line) :
        WritesBody body body

/-- The lines of some items, behind the line of a key, and what follows them. -/
inductive WritesBlock (body : Text) : Option Text → List Item → Text → Prop where
  /-- The end of the block and the body. -/
  | nil {previous : Option Text} {t : Text} (hbody : WritesBody body t) :
      WritesBlock body previous [] t
  /-- The line of an item, and those behind its key. -/
  | cons {previous : Option Text} {e : Item} {items : List Item} {line ending rest : Text}
      (hitem : WritesItem previous e line) (hending : LineEnd ending rest)
      (hrest : WritesBlock body (some e.name) items rest) :
      WritesBlock body previous (e :: items) (line ++ ending ++ rest)

/-- A document with items and a body. -/
inductive WritesDocument (items : List Item) (body : Text) : Text → Prop where
  /-- The items in front. -/
  | plain {t : Text} (hblock : WritesBlock body none items t) : WritesDocument items body t
  /-- An opening fence in front of them. -/
  | opened {line ending t : Text} (hline : IsFence '-' line) (hfeed : '\n' ∉ line)
      (hending : LineEnd ending t) (hblock : WritesBlock body none items t) :
      WritesDocument items body (line ++ ending ++ t)

/-- Whatever the items and the body are, there is a document with them: a line for each item and a
blank one in front of the body. -/
lemma exists_writesDocument (items : List Item) (body : Text) :
    ∃ document, WritesDocument items body document := by
  have hblock : ∀ previous, ∃ t, WritesBlock body previous items t := by
    induction items with
    | nil =>
      have hblank : IsTerminator [] := Or.inl rfl
      exact fun previous => ⟨_, .nil (.terminator hblank (by simp) .feed)⟩
    | cons e items ih =>
      intro previous
      obtain ⟨t, ht⟩ := ih (some e.name)
      have hnone : IsGap [] := by simp [IsGap]
      exact ⟨_, .cons (.keyLine (Nat.zero_le 3) rfl hnone hnone) .feed ht⟩
  obtain ⟨t, ht⟩ := hblock none
  exact ⟨t, .plain ht⟩

/-! ## Lines and their ends -/

/-- The end of a line is white space. -/
private lemma LineEnd.isWhiteSpace {ending rest : Text} (h : LineEnd ending rest) :
    ∀ c ∈ ending, Text.isWhiteSpace c = true := by
  cases h with
  | feed => exact List.forall_mem_singleton.2 (by decide)
  | returnFeed =>
    exact List.forall_mem_cons.2 ⟨by decide, List.forall_mem_singleton.2 (by decide)⟩
  | missing => simp

/-- A line with its end is the first one of the text.

**Proof sketch.** By the end of the line. With a line feed the text is cut behind it; a carriage
return in front belongs to the line; and without an end the line is the whole text. -/
private lemma LineEnd.lines_eq {line ending rest : Text} (h : LineEnd ending rest)
    (hfeed : '\n' ∉ line) (hne : line ++ ending ≠ []) :
    Text.lines (line ++ ending ++ rest) = (line ++ ending) :: Text.lines rest := by
  cases h with
  | feed =>
    rw [List.append_assoc]
    exact Text.lines_append hfeed rest
  | returnFeed =>
    have hreturn : '\n' ∉ line ++ ['\r'] := by simpa using hfeed
    calc
      Text.lines (line ++ ['\r', '\n'] ++ rest) =
        Text.lines ((line ++ ['\r']) ++ '\n' :: rest) := by
        simp
      _ = (line ++ ['\r', '\n']) :: Text.lines rest := by
        rw [Text.lines_append hreturn]
        simp
  | missing =>
    rw [List.append_nil] at hne ⊢
    rw [List.append_nil]
    exact Text.lines_of_notMem hfeed hne

/-- White space on one line holds no line feed. -/
private lemma IsGap.notMem {t : Text} (h : IsGap t) : '\n' ∉ t := fun hmem => (h _ hmem).2 rfl

/-- White space around a value of an item is trimmed. -/
private lemma Item.trim_gaps (e : Item) {before behind : Text} (hbefore : IsGap before)
    (hbehind : IsGap behind) : Text.trim (before ++ e.value ++ behind) = e.value := by
  rw [Text.trim_append (fun c hc => (hbefore c hc).1) (fun c hc => (hbehind c hc).1), e.trim_value]

/-! ## The lines of the items -/

/-- A key in letters of any case is made of the characters of keys. -/
private lemma Item.isKeyChar_of_spelling {e : Item} {spelling : Text}
    (h : Text.toLowerAscii spelling = e.name) :
    spelling ≠ [] ∧ ∀ c ∈ spelling, isKeyChar c = true := by
  constructor
  · rintro rfl
    exact e.key_ne_nil (List.map_eq_nil_iff.1 h.symm)
  · intro c hc
    have hmem : c.toLower ∈ Text.toLowerAscii e.key := by
      rw [← Item.name, ← h]
      exact List.mem_map_of_mem hc
    obtain ⟨d, hd, hlower⟩ := List.mem_map.1 hmem
    refine isKeyChar_of_toLower (isKeyChar_iff.2 (Or.inr ?_))
    rw [← hlower]
    exact toLower_of_isKeyChar (e.isKeyChar_of_mem d hd)

/-- The line of an item is a key line of its key, or a continuation behind its key. -/
private lemma WritesItem.isKeyLine_or_isContinuation {previous : Option Text} {e : Item}
    {line : Text} (h : WritesItem previous e line) :
    (∃ key, IsKeyLine line key e.value ∧ Text.toLowerAscii key = e.name) ∨
      (previous = some e.name ∧ IsContinuation line e.value) := by
  cases h with
  | @keyLine _ _ indent spelling before behind hindent hspelling hbefore hbehind =>
    obtain ⟨hne, hkey⟩ := Item.isKeyChar_of_spelling hspelling
    exact Or.inl ⟨spelling, ⟨indent, before ++ e.value ++ behind, hindent, rfl, hne, hkey,
      (e.trim_gaps hbefore hbehind).symm⟩, hspelling⟩
  | @continuation _ indent behind hindent hvalue hbehind =>
    obtain ⟨more, rfl⟩ := Nat.exists_eq_add_of_le hindent
    refine Or.inr ⟨rfl, List.replicate more ' ' ++ (e.value ++ behind), ?_, ?_, hvalue⟩
    · rw [List.replicate_add, List.append_assoc]
    · have hnone : IsGap [] := by simp [IsGap]
      rw [Text.trim_append_left (forall_spaces more)]
      exact (e.trim_gaps hnone hbehind).symm

/-- The line of an item is a line. -/
private lemma WritesItem.notMem {previous : Option Text} {e : Item} {line : Text}
    (h : WritesItem previous e line) : '\n' ∉ line := by
  have hvalue := e.notMem_value
  cases h with
  | keyLine hindent hspelling hbefore hbehind =>
    have hkey : '\n' ∉ _ := fun hmem =>
      absurd ((Item.isKeyChar_of_spelling hspelling).2 _ hmem) (by decide)
    simp [hkey, hvalue, hbefore.notMem, hbehind.notMem]
  | continuation hindent _ hbehind => simp [hvalue, hbehind.notMem]

/-- The line of an item is not empty. -/
private lemma WritesItem.ne_nil {previous : Option Text} {e : Item} {line : Text}
    (h : WritesItem previous e line) : line ≠ [] := by
  cases h with
  | keyLine => simp
  | continuation _ hvalue => simp [hvalue]

/-- The line of an item is the first one of the text. -/
private lemma WritesItem.lines_eq {previous : Option Text} {e : Item} {line ending rest : Text}
    (h : WritesItem previous e line) (hending : LineEnd ending rest) :
    Text.lines (line ++ ending ++ rest) = (line ++ ending) :: Text.lines rest :=
  hending.lines_eq h.notMem (List.append_ne_nil_of_left_ne_nil h.ne_nil ending)

/-- The line of an item gives its value to its key. -/
private lemma WritesItem.readLines_eq {previous : Option Text} {e : Item} {line ending rest : Text}
    (h : WritesItem previous e line) (hending : LineEnd ending rest) (m : Frontmatter) :
    readLines m previous (Text.lines (line ++ ending ++ rest)) =
      readLines (m.add e.name e.value) (some e.name) (Text.lines rest) := by
  rw [h.lines_eq hending]
  rcases h.isKeyLine_or_isContinuation with ⟨key, hline, hkey⟩ | ⟨rfl, hline⟩
  · rw [readLines_keyLine (hline.append hending.isWhiteSpace), hkey]
  · rw [readLines_continuation (hline.append hending.isWhiteSpace)]

/-! ## The block and the document -/

/-- At the end of a block the body is left.

**Proof sketch.** A terminator is read as the end of the block, and the body behind it is left; an
empty one without an end is no line at all. Without a terminator, the first line of the body is of
none of the forms that go on with the block. -/
private lemma WritesBody.readLines_eq {body t : Text} (h : WritesBody body t) (m : Frontmatter)
    (current : Option Text) : readLines m current (Text.lines t) = (m, Text.lines body) := by
  cases h with
  | @terminator line ending hline hfeed hending =>
    by_cases hne : line ++ ending = []
    · -- an empty line without an end is none
      obtain ⟨rfl, rfl⟩ := List.append_eq_nil_iff.1 hne
      cases hending
      rfl
    · rw [hending.lines_eq hfeed hne, readLines_terminator (hline.append hending.isWhiteSpace)]
  | bare hfirst =>
    cases hlines : Text.lines body with
    | nil => rfl
    | cons line rest =>
      rw [hlines] at hfirst
      obtain ⟨hterminator, hkey, hspaces⟩ := hfirst line rfl
      refine readLines_body ⟨hterminator, hkey, fun _ value hline => hspaces ?_⟩ m rest
      obtain ⟨rest, rfl, -⟩ := hline
      exact List.prefix_append _ _

/-- **The lines of the items give the items.**

**Proof sketch.** By induction on the layout, for all metadata in front of the items: the first line
gives the first item, and the others are read behind its key. -/
theorem WritesBlock.readLines_eq {body t : Text} {previous : Option Text} {items : List Item}
    (h : WritesBlock body previous items t) (m : Frontmatter) :
    readLines m previous (Text.lines t) =
      (m.addAll (items.map fun e => (e.name, e.value)), Text.lines body) := by
  induction h generalizing m with
  | nil hbody => exact hbody.readLines_eq m _
  | @cons previous e items line ending rest hitem hending hrest ih =>
    rw [hitem.readLines_eq hending, ih, List.map_cons, addAll_cons]

/-- An item in front of a document is no opening fence. -/
private lemma WritesBlock.afterOpening_eq {body t : Text} {items : List Item} (hne : items ≠ [])
    (h : WritesBlock body none items t) : afterOpening (Text.lines t) = Text.lines t := by
  cases h with
  | nil => exact absurd rfl hne
  | @cons _ e items line ending rest hitem hending hrest =>
    rw [hitem.lines_eq hending]
    refine afterOpening_of_not_isFence fun l hl => ?_
    obtain rfl : line ++ ending = l := by simpa using hl
    obtain ⟨key, hline, -⟩ | ⟨hnone, -⟩ := hitem.isKeyLine_or_isContinuation
    · exact (hline.append hending.isWhiteSpace).not_isFence (by decide) (by decide)
    · simp at hnone

/-- The lines behind the opening of a document are read as its items, in front of its body. -/
private lemma WritesDocument.readLines_eq {items : List Item} {body document : Text}
    (hne : items ≠ []) (h : WritesDocument items body document) :
    readLines empty none (afterOpening (Text.lines document)) =
      (empty.addAll (items.map fun e => (e.name, e.value)), Text.lines body) := by
  cases h with
  | plain hblock => rw [hblock.afterOpening_eq hne, hblock.readLines_eq]
  | @opened line ending t hline hfeed hending hblock =>
    have hnonempty : line ++ ending ≠ [] := by
      obtain ⟨rest, rfl, -⟩ := hline
      simp
    rw [hending.lines_eq hfeed hnonempty,
      afterOpening_of_isFence (hline.append hending.isWhiteSpace), hblock.readLines_eq]

/-- **A document is read back as what was written**, in whichever layout: the body is the one that
was written, and each key in small letters has the values of the items with this key, in their
order.

**Proof sketch.** The lines of the document are read item by item, whatever its layout is, and the
body is left (`WritesDocument.readLines_eq`). Adding the values in this order gives each key those
of its own items (`values_addAll_empty`). -/
theorem split_written {items : List Item} {body document : Text} (hne : items ≠ [])
    (h : WritesDocument items body document) :
    (split document).2 = body ∧ ∀ key,
      (split document).1.values key = (items.filter fun e => e.name = key).map Item.value ∧
        ((split document).1.contains key = true ↔ ∃ e ∈ items, e.name = key) := by
  have hsplit : split document =
      (empty.addAll (items.map fun e => (e.name, e.value)), (Text.lines body).flatten) := by
    rw [split, h.readLines_eq hne]
  have hvalues : ∀ key, (split document).1.values key =
      (items.filter fun e => e.name = key).map Item.value := fun key => by
    rw [hsplit, values_addAll_empty, List.filter_map, List.map_map]
    rfl
  refine ⟨by rw [hsplit, Text.flatten_lines], fun key => ⟨hvalues key, ?_⟩⟩
  rw [contains_iff, hvalues key, ne_eq, List.map_eq_nil_iff, List.filter_eq_nil_iff]
  simp

/-- Values of two keys, one of which comes again behind the other. -/
def tags : List Item :=
  [⟨"Tag".toList, "a: b".toList, by decide, List.all_eq_true.1 (by decide), by decide, by decide⟩,
    ⟨"tag".toList, "c".toList, by decide, List.all_eq_true.1 (by decide), by decide, by decide⟩,
    ⟨"---".toList, [], by decide, List.all_eq_true.1 (by decide), by decide, by decide⟩,
    ⟨"TAG".toList, "d".toList, by decide, List.all_eq_true.1 (by decide), by decide, by decide⟩]

/-- They are written with a fence, an indented key, a continuation, a key like a fence, and a line
of dots at the end. -/
def tagsDocument : Text :=
  "--- x\n  tAG:\t a: b \r\n     c\n---:\ntag:d\n... end\r\n\nText".toList

/-- The values are read back, with those of the other key between them left out. -/
theorem split_written_tags :
    tags ≠ [] ∧ WritesDocument tags "\nText".toList tagsDocument ∧
      (split tagsDocument).2 = "\nText".toList ∧
      (split tagsDocument).1.values "tag".toList = ["a: b".toList, "c".toList, "d".toList] := by
  have hne : tags ≠ [] := List.cons_ne_nil _ _
  have hwritten : WritesDocument tags "\nText".toList tagsDocument := by
    have hnone : IsGap [] := by simp [IsGap]
    have hspace : IsGap " ".toList := List.forall_mem_singleton.2 (by decide)
    have htab : IsGap "\t ".toList := List.forall_mem_cons.2 ⟨by decide, hspace⟩
    have hopening : IsFence '-' "--- x".toList := isFence_iff.1 (by decide)
    have hend : IsTerminator "... end".toList := Or.inr (Or.inr (isFence_iff.1 (by decide)))
    have hfirst : Text.toLowerAscii "tAG".toList = tags[0].name := by decide
    have hsecond : tags[1].value ≠ [] := by decide
    have hthird : Text.toLowerAscii "---".toList = tags[2].name := by decide
    have hlast : Text.toLowerAscii "tag".toList = tags[3].name := by decide
    exact .opened hopening (by decide) .feed <|
      .cons (.keyLine (by decide : 2 ≤ 3) hfirst htab hspace) .returnFeed <|
      .cons (.continuation (by decide : 4 ≤ 5) hsecond hnone) .feed <|
      .cons (.keyLine (Nat.zero_le 3) hthird hnone hnone) .feed <|
      .cons (.keyLine (Nat.zero_le 3) hlast hnone hnone) .feed <|
      .nil (.terminator hend (by decide) .returnFeed)
  obtain ⟨hbody, hvalues⟩ := split_written hne hwritten
  refine ⟨hne, hwritten, hbody, ?_⟩
  rw [(hvalues "tag".toList).1]
  decide

end StaticSite.Frontmatter
