import LivePatching.Proofs.Marking

/-!
# What a marker line tells

A value is written as it is, so its end is told from the text alone: a quote ends the value if the
line ends there or another attribute is opened behind it.

* `opening`, `attributesText`: how attributes stand in a line.
* `cutValue`, `readAttributes`: a reader that ends a value at the first quote that may end it.
* `Clear`: no value has a quote in it with the opening of a later attribute behind it.
* `readAttributes_attributesText`: the reader gets clear attributes back.
* `exists_same_text`: for attributes that are not clear there are others with the same text.
* `Marker.Told`, `Marker.told`: **a line tells its keyword and its second, and its attributes if
  they are clear.**
-/

namespace LivePatching.Junit

/-! ## Attributes -/

/-- What stands before the value of an attribute. -/
def opening (name : String) : List Char := ' ' :: (name.toList ++ ['=', '"'])

/-- The attributes of a line, from the first name to the last, those without a value left out. -/
def attributesText (ps : List (String × Option String)) : List Char :=
  ps.flatMap fun p => (Marker.attributeText p.1 p.2).toList

/-- In the text, a quote ends the value before it and opens an attribute of the name. -/
def Reopens (name : String) (cs : List Char) : Prop := '"' :: opening name <:+: cs

/-- No value, up to the quote that ends it, opens an attribute that is written behind it. -/
def Clear (ps : List (String × Option String)) : Prop :=
  ps.Pairwise fun p q => ∀ v, p.2 = some v → ¬ Reopens q.1 (v.toList ++ ['"'])

/-- The value, up to the quote that ends it, and what is behind that quote. -/
def cutValue (names : List String) : List Char → List Char × List Char
  | [] => ([], [])
  | c :: cs =>
    if c = '"' ∧ (cs = [] ∨ ∃ name ∈ names, opening name <+: cs) then ([], cs)
    else (c :: (cutValue names cs).1, (cutValue names cs).2)

/-- The values of the names, which are looked for in this order. -/
def readAttributes : List String → List Char → List (Option String)
  | [], _ => []
  | name :: names, cs =>
    if opening name <+: cs then
      let (v, rest) := cutValue names (cs.drop (opening name).length)
      some (String.ofList v) :: readAttributes names rest
    else none :: readAttributes names cs

section Attributes

variable {name name' v : String} {names : List String} {cs ds : List Char}
  {p : String × Option String} {ps : List (String × Option String)}

@[simp] theorem attributesText_nil : attributesText [] = [] := rfl

@[simp] theorem attributesText_none :
    attributesText ((name, none) :: ps) = attributesText ps := rfl

@[simp] theorem attributesText_some :
    attributesText ((name, some v) :: ps) =
      opening name ++ (v.toList ++ '"' :: attributesText ps) := by
  simp [attributesText, Marker.attributeText, opening]

/-- The opening up to its only quote. -/
def unquoted (name : String) : List Char := ' ' :: (name.toList ++ ['='])

theorem opening_eq (name : String) : opening name = unquoted name ++ ['"'] := by
  simp [opening, unquoted]

theorem quote_not_mem_unquoted (h : '"' ∉ name.toList) : '"' ∉ unquoted name := by
  simp [unquoted, h]

/-- An opening does not go on behind a quote. -/
theorem opening_prefix (h : '"' ∉ name.toList) (hcs : '"' ∈ cs)
    (hp : opening name <+: cs ++ ds) : opening name <+: cs := by
  rcases List.prefix_or_prefix_of_prefix hp (List.prefix_append cs ds) with hp | hp
  · exact hp
  · rw [opening_eq, List.prefix_concat_iff] at hp
    rcases hp with rfl | hp
    · exact ⟨[], by rw [opening_eq, List.append_nil]⟩
    · exact absurd (hp.subset hcs) (quote_not_mem_unquoted h)

/-- No opening is the front of another. -/
theorem opening_inj (h : '"' ∉ name.toList) (h' : '"' ∉ name'.toList)
    (hp : opening name <+: opening name' ++ cs) : name = name' := by
  obtain ⟨rest, hrest⟩ := hp
  have hfront : ∀ {n : String} {tail : List Char}, '"' ∉ n.toList →
      (opening n ++ tail).takeWhile (· ≠ '"') = unquoted n := by
    intro n tail hn
    rw [opening_eq, List.append_assoc, Json.takeWhile_append]
    · exact fun c hc => decide_eq_true fun he => quote_not_mem_unquoted hn (he ▸ hc)
    · exact Json.stopsAt_cons.mpr rfl
  have hunquoted : unquoted name = unquoted name' := by rw [← hfront h, hrest, hfront h']
  exact String.toList_inj.mp (List.append_cancel_right (List.cons.inj hunquoted).2)

/-- Values without quotes are clear. -/
theorem clear_of_no_quote (h : ∀ p ∈ ps, ∀ v, p.2 = some v → '"' ∉ v.toList) : Clear ps := by
  refine List.pairwise_iff_forall_sublist.mpr fun hsub v hv hr => ?_
  have hv' : '"' ∉ v.toList := h _ (hsub.subset List.mem_cons_self) v hv
  -- there is one quote in the value with its end, and two where an attribute is opened
  have hcount := hr.sublist.count_le '"'
  simp [opening, List.count_eq_zero_of_not_mem hv'] at hcount

/-- Behind a value the line ends, or one of the attributes that follow is opened. -/
theorem attributesText_opens (ps : List (String × Option String)) :
    attributesText ps = [] ∨ ∃ name ∈ ps.map Prod.fst, ∃ rest,
      attributesText ps = opening name ++ rest := by
  induction ps with
  | nil => exact .inl rfl
  | cons p ps ih =>
    obtain ⟨name, _ | v⟩ := p
    · refine ih.imp id fun ⟨name', hname, hrest⟩ => ⟨name', List.mem_cons_of_mem _ hname, hrest⟩
    · exact .inr ⟨name, List.mem_cons_self, _, attributesText_some⟩

/-- A value is cut off where it ends if nothing in it looks like an opening. -/
theorem cutValue_append (hnames : ∀ name ∈ names, '"' ∉ name.toList)
    (hclear : ∀ name ∈ names, ¬ Reopens name (cs ++ ['"']))
    (hend : ds = [] ∨ ∃ name ∈ names, opening name <+: ds) :
    cutValue names (cs ++ '"' :: ds) = (cs, ds) := by
  induction cs with
  | nil => exact if_pos ⟨rfl, hend⟩
  | cons c cs ih =>
    -- an opening behind a quote of the value would end at its last quote or before
    have hopen : ¬ (c = '"' ∧ (cs ++ '"' :: ds = [] ∨
        ∃ name ∈ names, opening name <+: cs ++ '"' :: ds)) := by
      rintro ⟨rfl, hnil | ⟨name, hname, hp⟩⟩
      · simp at hnil
      · refine hclear name hname ?_
        have hp' : opening name <+: (cs ++ ['"']) ++ ds := by simpa using hp
        have hcs := opening_prefix (hnames name hname) (by simp) hp'
        exact ((List.cons_prefix_cons).mpr ⟨rfl, hcs⟩).isInfix
    have hrest := ih fun name hname hr => hclear name hname (List.infix_cons hr)
    rw [List.cons_append, cutValue, if_neg hopen, hrest]

/-- **The reader gets clear attributes back.** -/
theorem readAttributes_attributesText (hnames : ∀ name ∈ ps.map Prod.fst, '"' ∉ name.toList)
    (hnodup : (ps.map Prod.fst).Nodup) (h : Clear ps) :
    readAttributes (ps.map Prod.fst) (attributesText ps) = ps.map Prod.snd := by
  induction ps with
  | nil => rfl
  | cons p ps ih =>
    obtain ⟨name, value⟩ := p
    obtain ⟨hvalue, hclear⟩ := List.pairwise_cons.mp h
    obtain ⟨hfresh, hdistinct⟩ := List.nodup_cons.mp hnodup
    obtain ⟨hname, hquotes⟩ := List.forall_mem_cons.mp hnames
    -- behind each value stands the opening of an attribute that is still to be read, or nothing
    have hopens : attributesText ps = [] ∨
        ∃ name ∈ ps.map Prod.fst, opening name <+: attributesText ps :=
      (attributesText_opens ps).imp id fun ⟨name', hmem, rest, hrest⟩ =>
        ⟨name', hmem, hrest ▸ List.prefix_append ..⟩
    cases value with
    | none =>
      -- the attribute that is missing is not taken for one that follows
      have hclosed : ¬ opening name <+: attributesText ps := by
        intro hp
        rcases attributesText_opens ps with hnil | ⟨name', hmem, rest, hrest⟩
        · rw [hnil] at hp
          simp [opening] at hp
        · rw [hrest] at hp
          exact hfresh (opening_inj hname (hquotes name' hmem) hp ▸ hmem)
      simp only [List.map_cons, attributesText_none, readAttributes, if_neg hclosed,
        ih hquotes hdistinct hclear]
    | some v =>
      -- the value holds no opening that is still to be read, so it is cut at its own quote
      have hcut : cutValue (ps.map Prod.fst) (v.toList ++ '"' :: attributesText ps) =
          (v.toList, attributesText ps) := by
        refine cutValue_append hquotes (fun name' hmem => ?_) hopens
        obtain ⟨q, hq, rfl⟩ := List.mem_map.mp hmem
        exact hvalue q hq v rfl
      simp only [List.map_cons, attributesText_some, readAttributes,
        if_pos (List.prefix_append ..), List.drop_left, hcut, String.ofList_toList,
        ih hquotes hdistinct hclear]

/-- Values bring all characters but those of the openings and the quotes. -/
theorem mem_attributesText {c : Char} (hopening : ∀ p ∈ ps, c ∉ opening p.1) (hquote : c ≠ '"') :
    c ∈ attributesText ps ↔ ∃ p ∈ ps, ∃ v, p.2 = some v ∧ c ∈ v.toList := by
  have hvalue : ∀ p ∈ ps, c ∈ (Marker.attributeText p.1 p.2).toList ↔
      ∃ v, p.2 = some v ∧ c ∈ v.toList := by
    rintro ⟨name, _ | v⟩ hp
    · simp [Marker.attributeText]
    · have := hopening _ hp
      simp_all [Marker.attributeText, opening]
  exact List.mem_flatMap.trans (exists_congr fun p => and_congr_right fun hp => hvalue p hp)

/-! ## Attributes that are not clear -/

theorem attributesText_append (ps qs : List (String × Option String)) :
    attributesText (ps ++ qs) = attributesText ps ++ attributesText qs := List.flatMap_append

/-- Attributes without values have no text. -/
theorem attributesText_unset (ps : List (String × Option String)) :
    attributesText (ps.map fun p => (p.1, none)) = [] := by
  simp [attributesText, List.flatMap_map, Marker.attributeText]

/-- Behind a value there is a quote at the end of the line. -/
theorem exists_last_quote (cs : List Char) (ps : List (String × Option String)) :
    ∃ zs, cs ++ '"' :: attributesText ps = zs ++ ['"'] := by
  induction ps generalizing cs with
  | nil => exact ⟨cs, rfl⟩
  | cons p ps ih =>
    obtain ⟨name, _ | v⟩ := p
    · exact ih cs
    · obtain ⟨zs, hzs⟩ := ih (cs ++ '"' :: (opening name ++ v.toList))
      exact ⟨zs, by rw [attributesText_some, ← hzs]; simp⟩

/-- **Where a value opens a later attribute, there are other attributes with the same text.** The
value ends at that quote, and all that is behind the opening is the value of the later one. -/
theorem exists_same_text
    (h : ¬ ps.Pairwise fun p q => ∀ v, p.2 = some v → ¬ Reopens q.1 v.toList) :
    ∃ qs : List (String × Option String), qs.map Prod.fst = ps.map Prod.fst ∧
      attributesText qs = attributesText ps ∧ qs ≠ ps := by
  induction ps with
  | nil => exact absurd .nil h
  | cons p ps ih =>
    by_cases hp : ∀ q ∈ ps, ∀ v, p.2 = some v → ¬ Reopens q.1 v.toList
    · obtain ⟨qs, hnames, htext, hne⟩ := ih fun hps => h (List.pairwise_cons.mpr ⟨hp, hps⟩)
      refine ⟨p :: qs, by simp [hnames], ?_, by simp [hne]⟩
      exact congrArg ((Marker.attributeText p.1 p.2).toList ++ ·) htext
    · -- the value ends early instead, and the attribute it looks like takes what stands behind
      -- that
      obtain ⟨name, value⟩ := p
      push Not at hp
      obtain ⟨q, hq, v, rfl, x, y, hv⟩ := hp
      obtain ⟨mid, back, rfl⟩ := List.append_of_mem hq
      obtain ⟨z, hz⟩ := exists_last_quote y (mid ++ q :: back)
      refine ⟨(name, some (.ofList x)) :: (mid.map (fun p => (p.1, none)) ++
        (q.1, some (.ofList z)) :: back.map fun p => (p.1, none)),
        by simp [Function.comp_def], ?_, ?_⟩
      · calc _ = opening name ++ (x ++ '"' :: (opening q.1 ++ (z ++ ['"']))) := by
              simp [attributesText_append, attributesText_unset]
          _ = opening name ++ (v.toList ++ '"' :: attributesText (mid ++ q :: back)) := by
              rw [← hz, ← hv]
              simp
          _ = _ := attributesText_some.symm
      · intro he
        have hxv : String.ofList x = v := by
          have := (List.cons.inj he).1
          simpa using this
        have hlength := congrArg List.length hv
        simp [← hxv, opening] at hlength

end Attributes

namespace Marker

variable {a b m : Marker}

/-! ## Lines -/

/-- The attributes of a marker as they are written. -/
def attributes (m : Marker) : List (String × Option String) :=
  [("id", m.id), ("text", m.text), ("hostname", m.hostname), ("type", m.kind)]

/-- The names of the attributes in the order they are written. -/
def attributeNames : List String := ["id", "text", "hostname", "type"]

/-- What is read in a line: the keyword behind the lead-in, the time up to the second quote, and
the attributes behind it. -/
def readLine (line : String) : String × String × List (Option String) :=
  let marked := line.toList.drop (lead.toList ++ [' ']).length
  let timed := (marked.dropWhile (· ≠ '"')).tail
  (.ofList (marked.takeWhile (· ≠ ' ')), .ofList (timed.takeWhile (· ≠ '"')),
    readAttributes attributeNames (timed.dropWhile (· ≠ '"')).tail)

/-- A line is the lead-in, the keyword, the time and the attributes. -/
theorem toList_line (m : Marker) : m.line.toList = (lead.toList ++ [' ']) ++
    (m.keyword.name.toList ++ " time=".toList ++
      '"' :: (m.time.text.toList ++ '"' :: attributesText m.attributes)) := by
  simp [line, attributesText, attributes]

/-- What is neither a digit nor a mark of a time does not stand in one. -/
theorem not_mem_time {c : Char} (hdigit : c.isDigit = false) (hmark : c ∉ Instant.marks)
    (t : Instant) : c ∉ t.text.toList := by
  intro hc
  rcases t.plain_text c hc with hd | hm
  · simp [hdigit] at hd
  · exact hmark hm

/-- Keyword and time are told whatever the attributes are. -/
theorem readLine_line (m : Marker) : readLine m.line =
    (m.keyword.name, m.time.text, readAttributes attributeNames (attributesText m.attributes)) := by
  -- keyword and time have neither blanks nor quotes, so each reader stops where the part ends
  have hblank : ' ' ∉ m.keyword.name.toList := by cases m.keyword <;> decide
  have hquote : '"' ∉ m.keyword.name.toList ++ " time=".toList := by
    cases m.keyword <;> decide
  have hword : ∀ c ∈ m.keyword.name.toList, c ≠ ' ' := fun c hc he => hblank (he ▸ hc)
  have hhead : ∀ c ∈ m.keyword.name.toList ++ " time=".toList, c ≠ '"' :=
    fun c hc he => hquote (he ▸ hc)
  have htime : ∀ c ∈ m.time.text.toList, c ≠ '"' := fun c hc he =>
    not_mem_time (c := '"') rfl (by decide) m.time (he ▸ hc)
  have hkeyword : (m.keyword.name.toList ++ " time=".toList ++
      '"' :: (m.time.text.toList ++ '"' :: attributesText m.attributes)).takeWhile (· ≠ ' ') =
        m.keyword.name.toList := by
    rw [List.append_assoc, Json.takeWhile_append (by simpa using hword)]
    exact Json.stopsAt_cons.mpr rfl
  have hstop : ∀ cs : List Char, Json.StopsAt (· ≠ '"') ('"' :: cs) := fun cs =>
    Json.stopsAt_cons.mpr rfl
  simp only [readLine, toList_line, List.drop_left, hkeyword, String.ofList_toList]
  rw [Json.dropWhile_append (by simpa using hhead) (hstop _), List.tail_cons,
    Json.takeWhile_append (by simpa using htime) (hstop _),
    Json.dropWhile_append (by simpa using htime) (hstop _), List.tail_cons, String.ofList_toList]

/-- A line of clear attributes is read back. -/
theorem read_clear (h : Clear m.attributes) :
    readLine m.line = (m.keyword.name, m.time.text, [m.id, m.text, m.hostname, m.kind]) := by
  have hnames : ∀ name ∈ m.attributes.map Prod.fst, '"' ∉ name.toList := by
    change ∀ name ∈ attributeNames, _
    decide
  have hnodup : (m.attributes.map Prod.fst).Nodup := by
    change attributeNames.Nodup
    decide
  have hread : readAttributes attributeNames (attributesText m.attributes) =
      [m.id, m.text, m.hostname, m.kind] := readAttributes_attributesText hnames hnodup h
  rw [readLine_line, hread]

/-- Attributes that are not clear share their line with others. -/
theorem exists_same_line
    (h : ¬ m.attributes.Pairwise fun p q => ∀ v, p.2 = some v → ¬ Reopens q.1 v.toList) :
    ∃ other : Marker, other.line = m.line ∧ other.attributes ≠ m.attributes := by
  obtain ⟨qs, hnames, htext, hne⟩ := exists_same_text h
  obtain ⟨other, hkeyword, htime, rfl⟩ : ∃ other : Marker,
      other.keyword = m.keyword ∧ other.time = m.time ∧ other.attributes = qs := by
    match qs, hnames with
    | [(_, id), (_, text), (_, hostname), (_, kind)], hnames =>
      simp only [attributes, List.map_cons, List.map_nil, List.cons.injEq] at hnames
      obtain ⟨rfl, rfl, rfl, rfl, -⟩ := hnames
      exact ⟨{ m with id, text, hostname, kind }, rfl, rfl, rfl⟩
  refine ⟨other, String.toList_inj.mp ?_, hne⟩
  rw [toList_line, toList_line, hkeyword, htime, htext]

/-- The characters that are printed, of the first 128. -/
def IsPrinted (c : Char) : Prop := ' ' ≤ c ∧ c ≤ '~'

instance : DecidablePred IsPrinted := fun _ => inferInstanceAs (Decidable (_ ∧ _))

theorem isPrinted_of_all {cs : List Char} (h : (cs.all fun c => decide (IsPrinted c)) = true) :
    ∀ c ∈ cs, IsPrinted c := fun c hc => of_decide_eq_true (List.all_eq_true.mp h c hc)

/-- A time consists of printed characters. -/
theorem isPrinted_time {t : Instant} {c : Char} (h : c ∈ t.text.toList) : IsPrinted c := by
  rcases t.plain_text c h with hd | hm
  · simp only [Char.isDigit, Bool.and_eq_true, decide_eq_true_eq] at hd
    exact ⟨Char.le_def.mpr (by have := hd.1; grind), Char.le_def.mpr (by have := hd.2; grind)⟩
  · exact isPrinted_of_all (by decide) c hm

/-- What is not printed comes from a value. -/
theorem mem_line_iff {c : Char} (hc : ¬ IsPrinted c) :
    c ∈ m.line.toList ↔ ∃ p ∈ m.attributes, ∃ v, p.2 = some v ∧ c ∈ v.toList := by
  have hlead : ∀ d ∈ lead.toList ++ [' '], IsPrinted d := isPrinted_of_all (by decide)
  have hword : ∀ d ∈ m.keyword.name.toList ++ " time=".toList, IsPrinted d :=
    isPrinted_of_all (by cases m.keyword <;> decide)
  have hopening : ∀ name ∈ attributeNames, ∀ d ∈ opening name, IsPrinted d := fun name hname =>
    isPrinted_of_all ((by decide : ∀ name ∈ attributeNames,
      ((opening name).all fun c => decide (IsPrinted c)) = true) name hname)
  -- all that the line has besides the values is printed
  have hlead' : c ∉ lead.toList ++ [' '] := fun h => hc (hlead c h)
  have hword' : c ∉ m.keyword.name.toList ++ " time=".toList := fun h => hc (hword c h)
  have htime : c ∉ m.time.text.toList := fun h => hc (isPrinted_time h)
  have hquote : c ≠ '"' := fun he => hc (he ▸ by decide)
  rw [toList_line, List.mem_append, or_iff_right hlead', List.mem_append, or_iff_right hword',
    List.mem_cons, or_iff_right hquote, List.mem_append, or_iff_right htime, List.mem_cons,
    or_iff_right hquote]
  refine mem_attributesText (fun p hp h => hc (hopening p.1 ?_ c h)) hquote
  exact List.mem_map_of_mem (f := Prod.fst) hp

/-! ## Pairs of markers -/

/-- What the lines of two markers tell. -/
structure Told (a b : Marker) : Prop where
  head : a.line = b.line →
    a.keyword = b.keyword ∧ a.time.secs = b.time.secs ∧ a.time.isLeap = b.time.isLeap
  attributes : a.line = b.line → Clear a.attributes → Clear b.attributes →
    a.id = b.id ∧ a.text = b.text ∧ a.hostname = b.hostname ∧ a.kind = b.kind
  /-- What the marker was built from is read in its line. -/
  read : Clear a.attributes →
    readLine a.line = (a.keyword.name, a.time.text, [a.id, a.text, a.hostname, a.kind])
  unquoted : (∀ p ∈ a.attributes, ∀ v, p.2 = some v → '"' ∉ v.toList) → Clear a.attributes
  /-- A value that opens a later attribute is not told from that attribute. -/
  unclear : (¬ a.attributes.Pairwise fun p q => ∀ v, p.2 = some v → ¬ Reopens q.1 v.toList) →
    ∃ other : Marker, other.line = a.line ∧ other.attributes ≠ a.attributes
  /-- A line break comes from a value. -/
  breaks : ∀ c, ¬ IsPrinted c →
    (c ∈ a.line.toList ↔ ∃ p ∈ a.attributes, ∃ v, p.2 = some v ∧ c ∈ v.toList)

/-- **A line tells its keyword and its second, and its attributes if they are clear.** -/
theorem told (a b : Marker) : Told a b where
  head h := by
    have hread : (a.keyword.name, a.time.text) = (b.keyword.name, b.time.text) := by
      have := congrArg readLine h
      rw [readLine_line, readLine_line] at this
      simp_all
    obtain ⟨hname, htime⟩ := Prod.mk.inj hread
    refine ⟨?_, Instant.text_inj htime⟩
    cases ha : a.keyword <;> cases hb : b.keyword <;> simp_all [Keyword.name]
  attributes h ha hb := by
    have hread := congrArg readLine h
    rw [read_clear ha, read_clear hb] at hread
    simpa using (Prod.mk.inj (Prod.mk.inj hread).2).2
  read := read_clear
  unquoted := clear_of_no_quote
  unclear := exists_same_line
  breaks _ := mem_line_iff

/-- A value may look like the attributes behind it, and it may have more than one line. -/
theorem not_told :
    let written (text hostname : Option String) : Marker :=
      { keyword := .testcase, time := ⟨1714642200, 0, by decide⟩, text, hostname }
    ((written "a\" hostname=\"b" none).line = (written "a" "b").line ∧
      (written "a\" hostname=\"b" none).text ≠ (written "a" "b").text) ∧
    '\n' ∈ (written "a\nb" none).line.toList := by
  intro written
  refine ⟨⟨?_, by decide⟩, by simp [written, line, attributeText]⟩
  have hattributes : attributesText (written "a\" hostname=\"b" none).attributes =
      attributesText (written "a" "b").attributes := by decide
  rw [← String.toList_inj, toList_line, toList_line, hattributes]

end Marker

end LivePatching.Junit
