/-
  The format of project documents.

  Whether a document has the format is a matter of the JSON value alone. Which project it describes
  depends on the source of ids as well: sprites, scripts and blocks without an id of their own get
  the next ones, in the order of the document, an element before its parts.

  * `Json.IsBlock`, `Json.IsScript`, `Json.IsSprite` and `Json.IsProject` are the values of the
    format;
  * `BlockOf`, `ScriptOf`, `SpriteOf` and `ProjectOf` relate them to what they describe, given the
    source of ids before and after; `Draws` does so for lists, `ListOf` for lists that may be
    missing;
  * `Json.inside_induction`: what holds of a value if it holds of all items of lists inside it holds
    of all values;
  * `isProject_iff`: **a document has the format just if it describes a project**.
-/
import Mathlib.Data.List.Forall2
import SpriteScript.Project.Reader

namespace SpriteScript

/-! ## The format -/

namespace Json

/-- A number that is finite as a float. -/
def IsFinite (v : Json) : Prop := ∃ x, v.float? = some x ∧ x.isFinite = true

/-- A number, a text or null. -/
def IsParam (v : Json) : Prop := (∃ x, v.float? = some x) ∨ (∃ s, v = .string s) ∨ v = .null

/-- What is missing, or a list of such values. -/
inductive OptionalList (P : Json → Prop) : Option Json → Prop where
  | missing : OptionalList P none
  | given {items : List Json} : (∀ v ∈ items, P v) → OptionalList P (some (.array items))

/-- A block has a type, and may have parameters and blocks inside it; only a loop has any. -/
inductive IsBlock : Json → Prop where
  | object {fields : List (String × Json)} {kind : BlockKind} :
      fields.lookup "type" = some (.string kind.name) →
      (∀ v, fields.lookup "params" = some v →
        ∃ entries, v = .object entries ∧ ∀ entry ∈ entries, entry.2.IsParam) →
      OptionalList IsBlock (fields.lookup "children") →
      (∀ items, fields.lookup "children" = some (.array items) → items ≠ [] → kind = .loop) →
      IsBlock (.object fields)

/-- A script may have blocks. -/
inductive IsScript : Json → Prop where
  | object {fields : List (String × Json)} :
      OptionalList IsBlock (fields.lookup "blocks") → IsScript (.object fields)

/-- A sprite has a name and a place; a colour, a direction, a size and scripts may be given. -/
structure IsSpriteFields (fields : List (String × Json)) : Prop where
  name : ∃ s, fields.lookup "name" = some (.string s) ∧ isBlankText s = false
  /-- What is not a text counts as missing. -/
  color : ∀ s, fields.lookup "color" = some (.string s) →
    ∃ digits, s.toList = '#' :: digits ∧ digits.length = 6 ∧ ∀ c ∈ digits, isHexDigit c = true
  x : ∃ v, fields.lookup "x" = some v ∧ v.IsFinite
  y : ∃ v, fields.lookup "y" = some v ∧ v.IsFinite
  rotation : ∀ v, fields.lookup "rotation" = some v → v = .null ∨ v.IsFinite
  width : ∀ v, fields.lookup "width" = some v →
    v = .null ∨ v.IsFinite ∧ ∀ w, v.float? = some w → 0 < w
  height : ∀ v, fields.lookup "height" = some v →
    v = .null ∨ v.IsFinite ∧ ∀ h, v.float? = some h → 0 < h
  scripts : OptionalList IsScript (fields.lookup "scripts")

inductive IsSprite : Json → Prop where
  | object {fields : List (String × Json)} : IsSpriteFields fields → IsSprite (.object fields)

/-- A project has a list of sprites that is not empty. -/
inductive IsProject : Json → Prop where
  | object {fields : List (String × Json)} {items : List Json} :
      fields.lookup "sprites" = some (.array items) → items ≠ [] → (∀ v ∈ items, v.IsSprite) →
      IsProject (.object fields)

end Json

/-! ## What documents describe -/

section
variable {ι α β : Type} (R : α → ι → β → ι → Prop)

/-- What the items of a list describe, one after the other. -/
inductive Draws : List α → ι → List β → ι → Prop where
  | nil {ids : ι} : Draws [] ids [] ids
  | cons {a : α} {as : List α} {b : β} {bs : List β} {ids ids₁ ids₂ : ι} :
      R a ids b ids₁ → Draws as ids₁ bs ids₂ → Draws (a :: as) ids (b :: bs) ids₂

end

/-- What a list describes that may be missing. -/
inductive ListOf {ι β : Type} (R : Json → ι → β → ι → Prop) : Option Json → ι → List β → ι → Prop where
  | missing {ids : ι} : ListOf R none ids [] ids
  | given {items : List Json} {bs : List β} {ids ids' : ι} :
      Draws R items ids bs ids' → ListOf R (some (.array items)) ids bs ids'

/-- The number in a field, if it is given. -/
inductive NumberOf : Option Json → Option Float → Prop where
  | missing : NumberOf none none
  | null : NumberOf (some .null) none
  | given {v : Json} {x : Float} :
      v.float? = some x → x.isFinite = true → NumberOf (some v) (some x)

/-- The colour of a sprite, grey if none is given. -/
inductive ColorOf : Option Json → String → Prop where
  | given {s : String} : isColor s = true → ColorOf (some (.string s)) s
  | missing {v : Option Json} : (∀ s, v ≠ some (.string s)) → ColorOf v "#888888"

/-- The value of a parameter. -/
inductive ParamOf : Json → ParamValue → Prop where
  | number {v : Json} {x : Float} : v.float? = some x → ParamOf v (.number x)
  | text {s : String} : ParamOf (.string s) (.text s)
  | absent : ParamOf .null .absent

/-- The parameters of a block: those that are given, put over those that a block of its kind starts
with. -/
inductive ParamsOf (kind : BlockKind) : Option Json → Params → Prop where
  | missing : ParamsOf kind none kind.defaults
  | given {entries : List (String × Json)} {values : List (String × ParamValue)} :
      List.Forall₂ (fun entry value => entry.1 = value.1 ∧ ParamOf entry.2 value.2) entries values →
      ParamsOf kind (some (.object entries))
        (values.foldl (fun params value => params.insert value.1 value.2) kind.defaults)

section
variable {ι : Type} [IdSource ι]

/-- The id of an element: its own if it is a text that is not blank, else the next one. -/
inductive IdOf : Option Json → ι → String → ι → Prop where
  | own {id : String} {ids : ι} : isBlankText id = false → IdOf (some (.string id)) ids id ids
  | drawn {v : Option Json} {ids : ι} : (∀ s, v = some (.string s) → isBlankText s = true) →
      IdOf v ids (IdSource.next ids).1 (IdSource.next ids).2

/-- What a block describes. -/
inductive BlockOf : Json → ι → Block → ι → Prop where
  | object {fields : List (String × Json)} {id : String} {kind : BlockKind} {params : Params}
      {children : List Block} {ids ids₁ ids₂ : ι} :
      fields.lookup "type" = some (.string kind.name) → IdOf (fields.lookup "id") ids id ids₁ →
      ParamsOf kind (fields.lookup "params") params →
      ListOf BlockOf (fields.lookup "children") ids₁ children ids₂ →
      (children ≠ [] → kind = .loop) → BlockOf (.object fields) ids ⟨id, kind, params, children⟩ ids₂

/-- What a script describes. -/
inductive ScriptOf : Json → ι → Script → ι → Prop where
  | object {fields : List (String × Json)} {id : String} {blocks : List Block}
      {ids ids₁ ids₂ : ι} : IdOf (fields.lookup "id") ids id ids₁ →
      ListOf BlockOf (fields.lookup "blocks") ids₁ blocks ids₂ →
      ScriptOf (.object fields) ids ⟨id, blocks⟩ ids₂

/-- What a sprite describes: it faces right and has a size of 72 by 72 if nothing else is given, and
has nothing transient to show. -/
inductive SpriteOf : Json → ι → Sprite → ι → Prop where
  | object {fields : List (String × Json)} {id name color : String} {x y : Float}
      {rotation width height : Option Float} {scripts : List Script} {ids ids₁ ids₂ : ι} :
      fields.lookup "name" = some (.string name) → isBlankText name = false →
      IdOf (fields.lookup "id") ids id ids₁ → ColorOf (fields.lookup "color") color →
      NumberOf (fields.lookup "x") (some x) → NumberOf (fields.lookup "y") (some y) →
      NumberOf (fields.lookup "rotation") rotation → NumberOf (fields.lookup "width") width →
      NumberOf (fields.lookup "height") height → (∀ w, width = some w → 0 < w) →
      (∀ h, height = some h → 0 < h) →
      ListOf ScriptOf (fields.lookup "scripts") ids₁ scripts ids₂ →
      SpriteOf (.object fields) ids ⟨id, name, color, ⟨x, y, rotation.getD 0⟩, width.getD 72,
        height.getD 72, scripts, ⟨none, none, false⟩⟩ ids₂

/-- What a document describes. -/
inductive ProjectOf : Json → ι → Project → ι → Prop where
  | object {fields : List (String × Json)} {items : List Json} {sprites : List Sprite}
      {ids ids' : ι} : fields.lookup "sprites" = some (.array items) → items ≠ [] →
      Draws SpriteOf items ids sprites ids' → ProjectOf (.object fields) ids ⟨sprites⟩ ids'

end

/-! ## Inside a value -/

namespace Json

theorem sizeOf_lt_of_lookup {fields : List (String × Json)} {key : String} {v : Json}
    (h : fields.lookup key = some v) : sizeOf v < sizeOf fields := by
  induction fields with
  | nil => simp at h
  | cons field fields ih =>
    obtain ⟨k, w⟩ := field
    rw [List.lookup_cons] at h
    split at h
    · obtain rfl := Option.some.inj h
      simp only [List.cons.sizeOf_spec, Prod.mk.sizeOf_spec]
      omega
    · have hlt := ih h
      simp only [List.cons.sizeOf_spec]
      omega

/-- **What holds of a value if it holds of the items of all lists inside it holds of all values.** -/
theorem inside_induction {motive : Json → Prop}
    (step : ∀ v, (∀ fields key items w, v = .object fields →
      fields.lookup key = some (.array items) → w ∈ items → motive w) → motive v) (v : Json) :
    motive v := by
  refine step v ?_
  intro fields key items w hv hitems hw
  have hlt : sizeOf w < sizeOf v := by
    have hfield := sizeOf_lt_of_lookup hitems
    have hitem := List.sizeOf_lt_of_mem hw
    rw [hv, object.sizeOf_spec]
    rw [array.sizeOf_spec] at hfield
    omega
  exact inside_induction step w
termination_by sizeOf v

end Json

/-! ## Fields -/

theorem isColor_iff {s : String} : isColor s = true ↔
    ∃ digits, s.toList = '#' :: digits ∧ digits.length = 6 ∧ ∀ c ∈ digits, isHexDigit c = true := by
  unfold isColor
  split
  · next digits hdigits => simp [hdigits]
  · next hother =>
    constructor
    · simp
    · rintro ⟨digits, hdigits, -⟩
      exact absurd hdigits (hother digits)

theorem Json.isParam_iff {v : Json} : v.IsParam ↔ ∃ value, ParamOf v value := by
  constructor
  · rintro (⟨x, hx⟩ | ⟨s, rfl⟩ | rfl)
    · exact ⟨_, .number hx⟩
    · exact ⟨_, .text⟩
    · exact ⟨_, .absent⟩
  · rintro ⟨value, h⟩
    cases h with
    | number hx => exact .inl ⟨_, hx⟩
    | text => exact .inr (.inl ⟨_, rfl⟩)
    | absent => exact .inr (.inr rfl)

section
variable {field : Option Json}

theorem paramsOf_iff (kind : BlockKind) :
    (∀ v, field = some v → ∃ entries, v = .object entries ∧ ∀ entry ∈ entries, entry.2.IsParam) ↔
      ∃ params, ParamsOf kind field params := by
  constructor
  · intro h
    cases field with
    | none => exact ⟨_, .missing⟩
    | some v =>
      obtain ⟨entries, rfl, hentries⟩ := h v rfl
      have hvalues : ∃ values : List (String × ParamValue), List.Forall₂
          (fun entry value => entry.1 = value.1 ∧ ParamOf entry.2 value.2) entries values := by
        clear h
        induction entries with
        | nil => exact ⟨[], .nil⟩
        | cons entry entries ih =>
          rw [List.forall_mem_cons] at hentries
          obtain ⟨value, hvalue⟩ := Json.isParam_iff.mp hentries.1
          obtain ⟨values, hvalues⟩ := ih hentries.2
          exact ⟨(entry.1, value) :: values, .cons ⟨rfl, hvalue⟩ hvalues⟩
      obtain ⟨values, hvalues⟩ := hvalues
      exact ⟨_, .given hvalues⟩
  · rintro ⟨params, h⟩ v rfl
    cases h with
    | @given entries values hvalues =>
      have hboth := hvalues.imp fun entry value h =>
        (⟨Json.isParam_iff.mpr ⟨_, h.2⟩, h⟩ : entry.2.IsParam ∧ _)
      exact ⟨entries, rfl, ((List.forall₂_and_left _ _).mp hboth).1⟩

theorem colorOf_iff : (∀ s, field = some (.string s) →
    ∃ digits, s.toList = '#' :: digits ∧ digits.length = 6 ∧ ∀ c ∈ digits, isHexDigit c = true) ↔
      ∃ color, ColorOf field color := by
  constructor
  · intro h
    by_cases hgiven : ∃ s, field = some (.string s)
    · obtain ⟨s, rfl⟩ := hgiven
      exact ⟨s, .given (isColor_iff.mpr (h s rfl))⟩
    · exact ⟨_, .missing fun s hs => hgiven ⟨s, hs⟩⟩
  · rintro ⟨color, h⟩ s rfl
    cases h with
    | given hvalid => exact isColor_iff.mp hvalid
    | missing hmissing => exact absurd rfl (hmissing s)

theorem numberOf_some_iff : (∃ v, field = some v ∧ v.IsFinite) ↔ ∃ x, NumberOf field (some x) := by
  constructor
  · rintro ⟨v, rfl, x, hx, hfinite⟩
    exact ⟨x, .given hx hfinite⟩
  · rintro ⟨x, h⟩
    cases h with
    | given hx hfinite => exact ⟨_, rfl, x, hx, hfinite⟩

theorem numberOf_iff (P : Float → Prop) : (∀ v, field = some v →
    v = .null ∨ v.IsFinite ∧ ∀ x, v.float? = some x → P x) ↔
      ∃ x, NumberOf field x ∧ ∀ w, x = some w → P w := by
  constructor
  · intro h
    cases field with
    | none => exact ⟨none, .missing, by simp⟩
    | some v =>
      rcases h v rfl with rfl | ⟨⟨x, hx, hfinite⟩, hall⟩
      · exact ⟨none, .null, by simp⟩
      · refine ⟨some x, .given hx hfinite, ?_⟩
        rintro w hw
        exact hall w (hx.trans hw)
  · rintro ⟨x, h, hall⟩ v rfl
    cases h with
    | null => exact .inl rfl
    | @given _ x hx hfinite =>
      refine .inr ⟨⟨x, hx, hfinite⟩, ?_⟩
      intro w hw
      exact hall w (hx.symm.trans hw)

end

/-! ## Values of the format describe something -/

section
variable {ι : Type}

section
variable {α β : Type} {P : α → Prop} {R : α → ι → β → ι → Prop}

theorem draws_iff {items : List α} (h : ∀ v ∈ items, ∀ ids, P v ↔ ∃ b ids', R v ids b ids')
    (ids : ι) : (∀ v ∈ items, P v) ↔ ∃ bs ids', Draws R items ids bs ids' := by
  induction items generalizing ids with
  | nil => simpa using ⟨[], ids, Draws.nil⟩
  | cons v items ih =>
    rw [List.forall_mem_cons] at h
    rw [List.forall_mem_cons, h.1 ids]
    constructor
    · rintro ⟨⟨b, ids₁, hb⟩, hall⟩
      obtain ⟨bs, ids', hbs⟩ := (ih h.2 ids₁).mp hall
      exact ⟨b :: bs, ids', .cons hb hbs⟩
    · rintro ⟨_, ids', hbs⟩
      cases hbs with
      | cons hb hbs => exact ⟨⟨_, _, hb⟩, (ih h.2 _).mpr ⟨_, _, hbs⟩⟩

theorem Draws.ne_nil_iff {items : List α} {bs : List β} {ids ids' : ι}
    (h : Draws R items ids bs ids') : bs ≠ [] ↔ items ≠ [] := by
  cases h <;> simp

end

theorem listOf_iff {β : Type} {P : Json → Prop} {R : Json → ι → β → ι → Prop} {field : Option Json}
    (h : ∀ items, field = some (.array items) → ∀ v ∈ items, ∀ ids,
      P v ↔ ∃ b ids', R v ids b ids') (ids : ι) :
    Json.OptionalList P field ↔ ∃ bs ids', ListOf R field ids bs ids' := by
  constructor
  · intro hfield
    cases hfield with
    | missing => exact ⟨_, _, .missing⟩
    | given hitems =>
      obtain ⟨bs, ids', hbs⟩ := (draws_iff (h _ rfl) ids).mp hitems
      exact ⟨bs, ids', .given hbs⟩
  · rintro ⟨bs, ids', hbs⟩
    cases hbs with
    | missing => exact .missing
    | given hbs => exact .given ((draws_iff (h _ rfl) ids).mpr ⟨_, _, hbs⟩)

variable [IdSource ι]

/-- Each element has an id or gets one. -/
theorem exists_idOf (field : Option Json) (ids : ι) : ∃ id ids', IdOf field ids id ids' := by
  by_cases hown : ∃ id, field = some (.string id) ∧ isBlankText id = false
  · obtain ⟨id, rfl, hblank⟩ := hown
    exact ⟨id, ids, .own hblank⟩
  · refine ⟨_, _, .drawn ?_⟩
    rintro s rfl
    by_contra hblank
    exact hown ⟨s, rfl, (Bool.not_eq_true _).mp hblank⟩

theorem isBlock_iff (v : Json) (ids : ι) : v.IsBlock ↔ ∃ b ids', BlockOf v ids b ids' := by
  induction v using Json.inside_induction generalizing ids with
  | step v ih =>
    constructor
    · intro h
      cases h with
      | @object fields kind hkind hparams hchildren hloop =>
        obtain ⟨id, ids₁, hid⟩ := exists_idOf (fields.lookup "id") ids
        obtain ⟨params, hparams⟩ := (paramsOf_iff kind).mp hparams
        obtain ⟨children, ids₂, hchildren⟩ := (listOf_iff (fun items hitems w hw ids =>
          ih fields "children" items w rfl hitems hw ids) ids₁).mp hchildren
        refine ⟨_, _, .object hkind hid hparams hchildren ?_⟩
        intro hne
        generalize hfield : fields.lookup "children" = field at hchildren
        cases hchildren with
        | missing => exact absurd rfl hne
        | given hdraws => exact hloop _ hfield (hdraws.ne_nil_iff.mp hne)
    · rintro ⟨b, ids', h⟩
      cases h with
      | @object fields id kind params children _ ids₁ _ hkind hid hparams hchildren hloop =>
        refine .object hkind ((paramsOf_iff kind).mpr ⟨params, hparams⟩)
          ((listOf_iff (fun items hitems w hw ids => ih fields "children" items w rfl hitems hw ids)
            ids₁).mpr ⟨_, _, hchildren⟩) ?_
        intro items hitems hne
        rw [hitems] at hchildren
        cases hchildren with
        | given hdraws => exact hloop (hdraws.ne_nil_iff.mpr hne)

theorem isScript_iff (v : Json) (ids : ι) : v.IsScript ↔ ∃ s ids', ScriptOf v ids s ids' := by
  constructor
  · intro h
    cases h with
    | @object fields hblocks =>
      obtain ⟨id, ids₁, hid⟩ := exists_idOf (fields.lookup "id") ids
      obtain ⟨blocks, ids₂, hblocks⟩ :=
        (listOf_iff (fun _ _ v _ ids => isBlock_iff v ids) ids₁).mp hblocks
      exact ⟨_, _, .object hid hblocks⟩
  · rintro ⟨script, ids', h⟩
    cases h with
    | object hid hblocks =>
      exact .object ((listOf_iff (fun _ _ v _ ids => isBlock_iff v ids) _).mpr ⟨_, _, hblocks⟩)

theorem isSprite_iff (v : Json) (ids : ι) : v.IsSprite ↔ ∃ s ids', SpriteOf v ids s ids' := by
  constructor
  · intro h
    cases h with
    | @object fields h =>
      obtain ⟨name, hname, hblank⟩ := h.name
      obtain ⟨id, ids₁, hid⟩ := exists_idOf (fields.lookup "id") ids
      obtain ⟨color, hcolor⟩ := colorOf_iff.mp h.color
      obtain ⟨x, hx⟩ := numberOf_some_iff.mp h.x
      obtain ⟨y, hy⟩ := numberOf_some_iff.mp h.y
      obtain ⟨rotation, hrotation, -⟩ := (numberOf_iff fun _ => True).mp fun v hv =>
        (h.rotation v hv).imp_right fun hfinite => ⟨hfinite, fun _ _ => trivial⟩
      obtain ⟨width, hwidth, hw⟩ := (numberOf_iff (0 < ·)).mp h.width
      obtain ⟨height, hheight, hh⟩ := (numberOf_iff (0 < ·)).mp h.height
      obtain ⟨scripts, ids₂, hscripts⟩ :=
        (listOf_iff (fun _ _ v _ ids => isScript_iff v ids) ids₁).mp h.scripts
      exact ⟨_, _, .object hname hblank hid hcolor hx hy hrotation hwidth hheight hw hh hscripts⟩
  · rintro ⟨sprite, ids', h⟩
    cases h with
    | object hname hblank hid hcolor hx hy hrotation hwidth hheight hw hh hscripts =>
      refine .object ⟨⟨_, hname, hblank⟩, colorOf_iff.mpr ⟨_, hcolor⟩,
        numberOf_some_iff.mpr ⟨_, hx⟩, numberOf_some_iff.mpr ⟨_, hy⟩, ?_,
        (numberOf_iff (0 < ·)).mpr ⟨_, hwidth, hw⟩, (numberOf_iff (0 < ·)).mpr ⟨_, hheight, hh⟩,
        (listOf_iff (fun _ _ v _ ids => isScript_iff v ids) _).mpr ⟨_, _, hscripts⟩⟩
      intro v hv
      exact ((numberOf_iff fun _ => True).mpr ⟨_, hrotation, fun _ _ => trivial⟩ v hv).imp_right
        And.left

/-- **A document has the format just if it describes a project.** -/
theorem isProject_iff (root : Json) (ids : ι) :
    root.IsProject ↔ ∃ p ids', ProjectOf root ids p ids' := by
  constructor
  · intro h
    cases h with
    | object hsprites hne hitems =>
      obtain ⟨sprites, ids', hdraws⟩ := (draws_iff (fun v _ ids => isSprite_iff v ids) ids).mp hitems
      exact ⟨_, _, .object hsprites hne hdraws⟩
  · rintro ⟨p, ids', h⟩
    cases h with
    | object hsprites hne hdraws =>
      exact .object hsprites hne
        ((draws_iff (fun v _ ids => isSprite_iff v ids) ids).mpr ⟨_, _, hdraws⟩)

end

end SpriteScript
