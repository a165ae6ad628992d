import Mathlib.Data.List.Basic
import LivePatching.Catalog.Provider
import LivePatching.Proofs.Numerals

/-!
# The kernels of a scope are looked up under its own key

A catalog answers for a scope from the list under the key of the scope, or else from the list under
`*`. No other list of the document matters, for no two scopes have the same key.

* `Scope.text_inj`, `Scope.text_ne_fallbackKey`: the keys of scopes are told apart, from each other
  and from `*`.
* `Plain`, `Scope.spelt_text`: how the keys of scopes are spelt.
* `Edit`, `Beside`: what may happen to a document, and which keys are not those of a scope.
* `Document.OwnKey`, `ownKey`: **the answer for a scope depends on its own list and on the fallback
  only.**
-/

namespace LivePatching

open Json

/-- The shortest spelling of a number: digits alone, with a zero in front only if that is all. -/
structure Plain (t : String) : Prop where
  digits : Numeral.Digits t.toList
  zero : t.toList.head? = some '0' → t.toList = ['0']

/-! ## Keys -/

namespace EntityId

variable {id id' : EntityId}

theorem toList_text (id : EntityId) : id.text.toList = Nat.toDigits 10 id.toNat := Nat.toList_repr

/-- Different identifiers have different texts. -/
theorem text_inj : id.text = id'.text ↔ id = id' := by
  refine ⟨fun h => ?_, congrArg text⟩
  have hdigits : Nat.toDigits 10 id.toNat = Nat.toDigits 10 id'.toNat := by
    rw [← toList_text, ← toList_text, h]
  have hnat : id.toNat = id'.toNat := by
    have hread := congrArg (Nat.ofDigitChars 10 · 0) hdigits
    simpa only [Nat.ofDigitChars_ten_toDigits] using hread
  exact congrArg EntityId.mk (UInt64.toNat_inj.mp hnat)

/-- An identifier is written as a plain number. -/
theorem plain_text (id : EntityId) : Plain id.text where
  digits := toList_text id ▸ Numeral.digits_toDigits _
  zero h := by
    rw [toList_text] at h ⊢
    rw [Numeral.eq_zero_of_head_toDigits h, Nat.toDigits_zero]

end EntityId

namespace Scope

variable {s s' : Scope} {kind t : String}

theorem colon_not_mem_kind (s : Scope) : ':' ∉ s.kind.toList := by
  cases s with
  | client id => exact (by decide : ':' ∉ "client".toList)
  | product id => exact (by decide : ':' ∉ "product".toList)

theorem colon_not_mem_id (s : Scope) : ':' ∉ s.id.text.toList := fun h =>
  absurd (s.id.plain_text.digits.2 ':' h) (by decide)

/-- A key falls apart into a kind and a number in one way only. -/
theorem eq_text_iff : kind ++ ":" ++ t = s.text ↔ kind = s.kind ∧ t = s.id.text := by
  refine ⟨fun h => ?_, fun ⟨hk, ht⟩ => by rw [hk, ht, text]⟩
  -- nothing is known of `kind` and `t`: that the scope's own parts have no colon is enough
  have hlist : s.kind.toList ++ ':' :: s.id.text.toList = kind.toList ++ ':' :: t.toList := by
    have := congrArg String.toList h.symm
    simpa [text] using this
  obtain ⟨hk, -, ht⟩ :=
    (List.append_cons_inj_of_notMem s.colon_not_mem_kind s.colon_not_mem_id).mp hlist
  exact ⟨String.toList_inj.mp hk.symm, String.toList_inj.mp ht.symm⟩

/-- Different scopes have different texts. -/
theorem text_inj : s.text = s'.text ↔ s = s' := by
  refine ⟨fun h => ?_, congrArg text⟩
  obtain ⟨hkind, hid⟩ := eq_text_iff.mp h
  have hid' : s.id = s'.id := EntityId.text_inj.mp hid
  cases s with
  | client id =>
    cases s' with
    | client id' => exact congrArg client hid'
    | product id' => exact absurd hkind (by decide : "client" ≠ "product")
  | product id =>
    cases s' with
    | client id' => exact absurd hkind (by decide : "product" ≠ "client")
    | product id' => exact congrArg product hid'

/-- No scope is written as the fallback key. -/
theorem text_ne_fallbackKey (s : Scope) : s.text ≠ Catalog.fallbackKey := by
  intro h
  have hcolon : ':' ∈ s.text.toList := by simp [text]
  rw [h] at hcolon
  exact absurd hcolon (by decide)

/-- A key is spelt in one of two ways, with the shortest spelling of a number. -/
theorem spelt_text (h : kind ++ ":" ++ t = s.text) :
    (kind = "client" ∨ kind = "product") ∧ Plain t := by
  obtain ⟨rfl, rfl⟩ := eq_text_iff.mp h
  refine ⟨?_, s.id.plain_text⟩
  cases s with
  | client id => exact .inl rfl
  | product id => exact .inr rfl

end Scope

namespace Catalog

/-! ## Documents that change -/

/-- A change to the kernels of a document: a list is added or replaced, or it is taken out. -/
inductive Edit where
  | put (key : String) (list : List Kernel)
  | remove (key : String)

namespace Edit

/-- The key that is edited. -/
def key : Edit → String
  | put key _ => key
  | remove key => key

/-- The document after an edit. -/
def apply (d : Document) : Edit → Document
  | put key list => { d with kernels := d.kernels.insert key list }
  | remove key => { d with kernels := d.kernels.erase key }

/-- An edit changes no list but that of its key. -/
theorem get?_apply (e : Edit) (d : Document) {key : String} (h : e.key ≠ key) :
    Dict.get? (e.apply d).kernels key = Dict.get? d.kernels key := by
  cases e with
  | put k list => exact (Dict.get?_insert ..).trans (if_neg h)
  | remove k => exact (Dict.get?_erase ..).trans (if_neg h)

end Edit

/-- Keys that may be taken for that of a scope but are not: those of all other scopes, and those
that no scope has, such as `client:01`, `client:+1` and ` client:1`. -/
inductive Beside (s : Scope) : String → Prop where
  | scope {s' : Scope} (h : s' ≠ s) : Beside s s'.text
  | misspelt {kind t : String} (h : ¬ ((kind = "client" ∨ kind = "product") ∧ Plain t)) :
    Beside s (kind ++ ":" ++ t)

/-- A key beside the scope is not the scope's. -/
theorem Beside.ne_text {s : Scope} {key : String} (h : Beside s key) : key ≠ s.text := by
  cases h with
  | scope h => exact fun he => h (Scope.text_inj.mp he)
  | misspelt h => exact fun he => h (Scope.spelt_text he)

/-- A key beside the scope is not the fallback. -/
theorem Beside.ne_fallbackKey {s : Scope} {key : String} (h : Beside s key) :
    key ≠ fallbackKey := by
  cases h with
  | scope h => exact Scope.text_ne_fallbackKey _
  | @misspelt kind t h =>
    intro he
    have hcolon : ':' ∈ (kind ++ ":" ++ t).toList := by simp
    rw [he] at hcolon
    exact absurd hcolon (by decide)

namespace Document

variable {d d' : Document} {s : Scope}

/-- The documents have the same list for the scope, or both none, and the same fallback. -/
def Agrees (s : Scope) (d d' : Document) : Prop :=
  Dict.get? d.kernels s.text = Dict.get? d'.kernels s.text ∧
    Dict.get? d.kernels fallbackKey = Dict.get? d'.kernels fallbackKey

/-- Documents that agree on a scope answer alike. -/
theorem kernelsFor_congr (h : Agrees s d d') : d.kernelsFor s = d'.kernelsFor s := by
  rw [kernelsFor, kernelsFor, h.1, h.2]

/-- Edits of other keys leave the documents in agreement. -/
theorem agrees_edits {es : List Edit} (h : ∀ e ∈ es, e.key ≠ s.text ∧ e.key ≠ fallbackKey) :
    Agrees s (es.foldl Edit.apply d) d := by
  induction es generalizing d with
  | nil => exact ⟨rfl, rfl⟩
  | cons e es ih =>
    obtain ⟨htext, hfallback⟩ := h e List.mem_cons_self
    obtain ⟨hown, hrest⟩ := ih fun e' he' => h e' (List.mem_cons_of_mem _ he')
    exact ⟨hown.trans (e.get?_apply d htext), hrest.trans (e.get?_apply d hfallback)⟩

/-- What the answer of a catalog for a scope depends on, however long it takes. -/
structure OwnKey (d : Document) (s : Scope) : Prop where
  own : ∀ latency list, Dict.get? d.kernels s.text = some list →
    (Provider.catalog d latency).kernels s = .ok list
  fallback : ∀ latency list, Dict.get? d.kernels s.text = none →
    Dict.get? d.kernels fallbackKey = some list → (Provider.catalog d latency).kernels s = .ok list
  unknown : ∀ latency, Dict.get? d.kernels s.text = none →
    Dict.get? d.kernels fallbackKey = none →
    (Provider.catalog d latency).kernels s = .error (.unknownScope s.text)
  /-- No other scope has the key. -/
  distinct : ∀ s', s.text = s'.text ↔ s = s'
  reserved : s.text ≠ fallbackKey
  /-- Nothing else in the document matters. -/
  determined : ∀ d' latency latency', Agrees s d d' →
    (Provider.catalog d latency).kernels s = (Provider.catalog d' latency').kernels s
  edited : ∀ (es : List Edit) latency, (∀ e ∈ es, e.key ≠ s.text ∧ e.key ≠ fallbackKey) →
    (Provider.catalog (es.foldl Edit.apply d) latency).kernels s =
      (Provider.catalog d latency).kernels s
  /-- That holds whatever becomes of the lists of other scopes, and of keys that are misspelt. -/
  beside : ∀ (es : List Edit) latency, (∀ e ∈ es, Beside s e.key) →
    (Provider.catalog (es.foldl Edit.apply d) latency).kernels s =
      (Provider.catalog d latency).kernels s

/-- **The answer for a scope depends on its own list and on the fallback only.** -/
theorem ownKey (d : Document) (s : Scope) : d.OwnKey s := by
  have hedited : ∀ es : List Edit, (∀ e ∈ es, e.key ≠ s.text ∧ e.key ≠ fallbackKey) →
      (es.foldl Edit.apply d).kernelsFor s = d.kernelsFor s :=
    fun es h => kernelsFor_congr (agrees_edits h)
  exact
    { own := fun _ list h => by simp only [Provider.kernels, kernelsFor, h]
      fallback := fun _ list hown h => by simp only [Provider.kernels, kernelsFor, hown, h]
      unknown := fun _ hown h => by simp only [Provider.kernels, kernelsFor, hown, h]
      distinct := fun s' => Scope.text_inj
      reserved := s.text_ne_fallbackKey
      determined := fun d' _ _ h => kernelsFor_congr h
      edited := fun es _ h => hedited es h
      beside := fun es _ h => hedited es fun e he => ⟨(h e he).ne_text, (h e he).ne_fallbackKey⟩ }

/-- A list for the product with the number of a client, or for that number with a zero in front, is
not one for the client. -/
example : (Document.mk [] [] [("*", []), ("client:01", [⟨⟨7⟩, "1", true⟩]),
    ("product:1", [⟨⟨8⟩, "2", true⟩])]).kernelsFor (.client ⟨1⟩) = .ok [] := by decide

end Document

end Catalog

end LivePatching
