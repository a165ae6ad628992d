import Mathlib.Data.List.Basic
import LivePatching.Junit.Target
import LivePatching.Proofs.Trimming

/-!
# How targets are read

The scheme of a target stands before the first colon, without blanks; blanks around the address
are no part of the host.

* `Target.splitScheme?_cases`: a text is split at its first colon.
* `Target.Reads`: the forms of a spec, and what each is read as.
* `Target.parse_eq_iff`: a spec is read as its form says, and as nothing else.
* `Target.parse_forms`: **a spec has one form, and a target that was read is read again from its
  text.**
-/

namespace LivePatching.Junit.Target

open Text (Trimmed trim)

/-! ## Schemes -/

section Split

variable {cs scheme address : List Char}

/-- A spec is split at its first colon. -/
theorem splitScheme?_append (h : ':' ∉ scheme) :
    splitScheme? (scheme ++ ':' :: address) = some (scheme, address) := by
  induction scheme with
  | nil => rfl
  | cons c scheme ih =>
    obtain ⟨hc, hscheme⟩ := List.ne_and_not_mem_of_not_mem_cons h
    rw [List.cons_append, splitScheme?, ih hscheme, Option.map_some]
    exact fun he => hc he.symm

theorem splitScheme?_of_not_mem (h : ':' ∉ cs) : splitScheme? cs = none := by
  induction cs with
  | nil => rfl
  | cons c cs ih =>
    obtain ⟨hc, hcs⟩ := List.ne_and_not_mem_of_not_mem_cons h
    rw [splitScheme?, ih hcs, Option.map_none]
    exact fun he => hc he.symm

/-- A text is split at its first colon. -/
theorem splitScheme?_cases (cs : List Char) :
    (':' ∉ cs ∧ splitScheme? cs = none) ∨
      ∃ scheme address, ':' ∉ scheme ∧ cs = scheme ++ ':' :: address ∧
        splitScheme? cs = some (scheme, address) := by
  by_cases hmem : ':' ∈ cs
  · obtain ⟨scheme, address, rfl, hscheme⟩ := List.eq_append_cons_of_mem hmem
    exact .inr ⟨scheme, address, hscheme, rfl, splitScheme?_append hscheme⟩
  · exact .inl ⟨hmem, splitScheme?_of_not_mem hmem⟩

end Split

/-! ## Forms of a spec -/

/-- The schemes that mean something. -/
def schemes : List String := ["ssh", "local", "virtio", "serial"]

theorem colon_not_mem_schemes : ∀ scheme ∈ schemes, ':' ∉ scheme.toList := by decide

/-- The forms of a spec, and what each is read as. -/
inductive Reads (spec : String) : Except TargetError Target → Prop where
  /-- The host is the address without the blanks around it. -/
  | ssh {address host : String} (h : spec = "ssh:" ++ address)
      (hhost : ∃ before after, (∀ c ∈ before ++ after, Text.isBlank c = true) ∧
        address.toList = before ++ host.toList ++ after)
      (htrimmed : Trimmed host.toList) (hne : host ≠ "") : Reads spec (.ok (.ssh host))
  | shell {address : String} (h : spec = "local:" ++ address) : Reads spec (.ok .shell)
  | missingAddress {address : String} (h : spec = "ssh:" ++ address)
      (hblank : ∀ c ∈ address.toList, Text.isBlank c = true) :
    Reads spec (.error (.missingAddress spec))
  | unsupported {scheme address : String} (hscheme : scheme = "virtio" ∨ scheme = "serial")
      (h : spec = scheme ++ ":" ++ address) : Reads spec (.error (.unsupported scheme))
  /-- Anything else. -/
  | invalid (h : ∀ scheme ∈ schemes, ∀ address, spec ≠ scheme ++ ":" ++ address) :
    Reads spec (.error (.invalid spec))

variable {spec : String} {r : Except TargetError Target} {t : Target}

theorem parse_append {scheme : String} (address : String) (h : ':' ∉ scheme.toList) :
    parse (scheme ++ ":" ++ address) =
      if scheme = "ssh" then
        if trim address.toList = [] then .error (.missingAddress (scheme ++ ":" ++ address))
        else .ok (.ssh (String.ofList (trim address.toList)))
      else if scheme = "local" then .ok .shell
      else if scheme = "virtio" ∨ scheme = "serial" then .error (.unsupported scheme)
      else .error (.invalid (scheme ++ ":" ++ address)) := by
  have hsplit : splitScheme? (scheme ++ ":" ++ address).toList =
      some (scheme.toList, address.toList) := by
    rw [String.toList_append, String.toList_append, List.append_assoc]
    exact splitScheme?_append h
  simp only [parse, hsplit, String.toList_inj, List.isEmpty_iff, String.ofList_toList]

/-- A spec has one scheme. -/
theorem scheme_inj {scheme scheme' address address' : String} (h : ':' ∉ scheme.toList)
    (h' : ':' ∉ scheme'.toList) (he : scheme ++ ":" ++ address = scheme' ++ ":" ++ address') :
    scheme = scheme' := by
  have hlist : scheme.toList ++ ':' :: address.toList =
      scheme'.toList ++ ':' :: address'.toList := by
    simpa using congrArg String.toList he
  have hsplit := congrArg splitScheme? hlist
  rw [splitScheme?_append h, splitScheme?_append h'] at hsplit
  exact String.toList_inj.mp (Prod.mk.inj (Option.some.inj hsplit)).1

/-- A spec without a colon is invalid; in every other one a scheme stands before the first colon. -/
theorem parse_cases (spec : String) :
    (':' ∉ spec.toList ∧ parse spec = .error (.invalid spec)) ∨
      ∃ scheme address : String, ':' ∉ scheme.toList ∧ spec = scheme ++ ":" ++ address := by
  rcases splitScheme?_cases spec.toList with ⟨hmem, hsplit⟩ | ⟨scheme, address, hscheme, hspec, -⟩
  · exact .inl ⟨hmem, by simp only [parse, hsplit]⟩
  · refine .inr ⟨String.ofList scheme, String.ofList address, ?_, ?_⟩
    · rwa [String.toList_ofList]
    · rw [← String.toList_inj, hspec]
      simp

/-- Every spec is read as its form says. -/
theorem reads_parse (spec : String) : Reads spec (parse spec) := by
  -- with a colon, the text before it decides; its address is read as the scheme has it
  rcases parse_cases spec with ⟨hmem, hparse⟩ | ⟨scheme, address, hcolon, rfl⟩
  · rw [hparse]
    refine .invalid fun scheme _ address he => hmem ?_
    rw [he]
    simp
  · rw [parse_append address hcolon]
    split_ifs with hssh hblank hlocal hunsupported
    · subst hssh
      exact .missingAddress rfl (Text.trim_eq_nil_iff.mp hblank)
    · subst hssh
      obtain ⟨htrimmed, haround⟩ := Text.exists_eq_trim address.toList
      refine .ssh rfl ?_ ?_ ?_
      · rwa [String.toList_ofList]
      · rwa [String.toList_ofList]
      · simpa using hblank
    · subst hlocal
      exact .shell rfl
    · exact .unsupported hunsupported rfl
    · refine .invalid fun scheme' hmem address' he => ?_
      obtain rfl := scheme_inj hcolon (colon_not_mem_schemes scheme' hmem) he
      simp [schemes, hssh, hlocal] at hmem
      exact hunsupported hmem

/-- The form of a spec decides what is read. -/
theorem parse_of_reads (h : Reads spec r) : parse spec = r := by
  have hcolons := colon_not_mem_schemes
  -- each form begins with its own scheme, which is what the parser looks at
  cases h with
  | @ssh address host h hhost htrimmed hne =>
    have htrim : trim address.toList = host.toList := Text.trim_eq_iff.mpr ⟨htrimmed, hhost⟩
    have hsome : trim address.toList ≠ [] := by simpa [htrim] using hne
    have hparse := parse_append address (hcolons "ssh" (by decide))
    rw [if_pos rfl, if_neg hsome, htrim, String.ofList_toList] at hparse
    exact h ▸ hparse
  | @shell address h =>
    have hparse := parse_append address (hcolons "local" (by decide))
    rw [if_neg (by decide), if_pos rfl] at hparse
    exact h ▸ hparse
  | @missingAddress address h hblank =>
    have hparse := parse_append address (hcolons "ssh" (by decide))
    rw [if_pos rfl, if_pos (Text.trim_eq_nil_iff.mpr hblank)] at hparse
    exact h ▸ hparse
  | unsupported hscheme h =>
    subst h
    rcases hscheme with rfl | rfl
    · rw [parse_append _ (hcolons "virtio" (by decide)), if_neg (by decide), if_neg (by decide),
        if_pos (.inl rfl)]
    · rw [parse_append _ (hcolons "serial" (by decide)), if_neg (by decide), if_neg (by decide),
        if_pos (.inr rfl)]
  | invalid h =>
    rcases parse_cases spec with ⟨-, hparse⟩ | ⟨scheme, address, hcolon, rfl⟩
    · exact hparse
    · have hne : ∀ scheme' ∈ schemes, scheme ≠ scheme' := fun scheme' hmem he =>
        h scheme' hmem address (he ▸ rfl)
      rw [parse_append address hcolon, if_neg (hne _ (by decide)), if_neg (hne _ (by decide)),
        if_neg]
      rintro (he | he)
      · exact hne _ (by decide) he
      · exact hne _ (by decide) he

/-- A spec is read as its form says. -/
theorem parse_eq_iff : parse spec = r ↔ Reads spec r :=
  ⟨fun h => h ▸ reads_parse spec, parse_of_reads⟩

/-- Nothing is cut off a host that was read. -/
theorem parse_text (h : parse spec = .ok t) : parse t.text = .ok t := by
  rw [parse_eq_iff] at h ⊢
  cases h with
  | @ssh address host h hhost htrimmed hne => exact .ssh rfl ⟨[], [], by simp⟩ htrimmed hne
  | shell => exact @Reads.shell _ "" rfl

/-- **A spec has one form**, and a target that was read is read again from its text. -/
theorem parse_forms (spec : String) : (∀ r, parse spec = r ↔ Reads spec r) ∧
    ∀ t, parse spec = .ok t → parse t.text = .ok t ∧ (parse t.text).map text = .ok t.text := by
  refine ⟨fun r => parse_eq_iff, fun t h => ⟨parse_text h, ?_⟩⟩
  rw [parse_text h]
  rfl

/-- An address with colons of its own between blanks; blanks around the scheme make it unknown. -/
theorem parse_forms_padded :
    parse "ssh:\u2003[::1]:22 \n" = .ok (.ssh "[::1]:22") ∧
      parse "ssh:[::1]:22" = .ok (.ssh "[::1]:22") ∧
      (parse "ssh:[::1]:22").map text = .ok "ssh:[::1]:22" ∧
      parse " ssh:[::1]:22" = .error (.invalid " ssh:[::1]:22") := by
  have hread : parse "ssh:\u2003[::1]:22 \n" = .ok (.ssh "[::1]:22") := by
    refine ((parse_forms _).1 _).mpr
      (@Reads.ssh _ "\u2003[::1]:22 \n" "[::1]:22" rfl ?_ ?_ (by decide))
    · exact ⟨['\u2003'], [' ', '\n'], List.all_eq_true.mp (by decide), by decide⟩
    · have hplain : "[::1]:22".toList.all (!Text.isBlank ·) = true := by decide
      exact Text.trimmed_of_forall fun c hc => by simpa using List.all_eq_true.mp hplain c hc
  obtain ⟨hagain, htext⟩ := (parse_forms _).2 _ hread
  exact ⟨hread, hagain, htext, by decide⟩

end LivePatching.Junit.Target
