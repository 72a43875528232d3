/-
  Reading documents.

  * `Reading.Gives m ids a ids'`: a step of reading gives a value, and leaves a source of ids;
    `gives_bind` and the like say when steps made of others do;
  * `Reading.Reads R read v`: for the value `v` the step gives just what it describes;
    `reads_readBlock`, `reads_readScript`, `gives_readSprite` and `gives_readProject` say so of
    blocks, scripts, and, unless ids repeat, of sprites and projects;
  * `Describes.Unique`: what a value describes is determined;
  * `ofJson_reads`: **a document is read just if it has the format and ids do not repeat**, and then
    as what it describes.
-/
import SpriteScript.Proofs.Format

namespace SpriteScript

/-- For a finite float, not to be at most zero is to be greater. -/
theorem not_le_zero_iff {x : Float} (h : x.isFinite = true) : ¬ x ≤ 0 ↔ 0 < x := by
  have hzero : (0 : Float).toModel.unpack = .zero .positive := rfl
  have hle : x ≤ 0 ↔ x.toModel.unpack.le (.zero .positive) = true := by
    rw [← hzero]
    exact decide_eq_true_iff
  have hlt : 0 < x ↔ Float.Model.UnpackedFloat.lt (.zero .positive) x.toModel.unpack = true := by
    rw [← hzero]
    exact decide_eq_true_iff
  have hfinite : x.toModel.unpack.isFinite = true := h
  rw [hle, hlt]
  generalize x.toModel.unpack = u at hfinite
  cases u with
  | infinity | notANumber => exact absurd hfinite Bool.false_ne_true
  | zero => exact ⟨fun hle => absurd rfl hle, fun hlt => absurd hlt Bool.false_ne_true⟩
  | finite sign =>
    cases sign with
    | positive => exact ⟨fun _ => rfl, fun _ hle => Bool.false_ne_true hle⟩
    | negative => exact ⟨fun hle => absurd rfl hle, fun hlt => absurd hlt Bool.false_ne_true⟩

/-- The ids of the sprites of a project are distinct, and so are those of the blocks of each. -/
structure Project.Distinct (p : Project) : Prop where
  sprites : (p.sprites.map (·.id)).Nodup
  blocks : ∀ sprite ∈ p.sprites, sprite.blockIds.Nodup

theorem NumberOf.isFinite {v : Option Json} {x : Float} (h : NumberOf v (some x)) :
    x.isFinite = true := by
  cases h with
  | given _ hfinite => exact hfinite

/-- A size that is not given is positive. -/
theorem NumberOf.positive_iff {v : Option Json} {size : Option Float} (h : NumberOf v size) :
    ¬ size.getD defaultSize ≤ 0 ↔ ∀ x, size = some x → 0 < x := by
  cases size with
  | none =>
    have hdefault : ¬ defaultSize ≤ 0 := by decide
    simpa using hdefault
  | some x => simp [not_le_zero_iff h.isFinite]

namespace Reading

variable {ι α β : Type}

/-- A step of reading gives a value, and leaves the source of ids as `ids'`. -/
def Gives (m : Reading ι α) (ids : ι) (a : α) (ids' : ι) : Prop := m.run ids = .ok (a, ids')

section
variable {ids ids' : ι} {a : α} {b : β}

/-- For a value, a step gives just what the value describes. -/
def Reads (R : α → ι → β → ι → Prop) (read : α → Reading ι β) (v : α) : Prop :=
  ∀ ids b ids', Gives (read v) ids b ids' ↔ R v ids b ids'

/-- What a step gives is determined. -/
theorem Gives.unique {m : Reading ι α} {a₁ a₂ : α} {ids₁ ids₂ : ι} (h₁ : Gives m ids a₁ ids₁)
    (h₂ : Gives m ids a₂ ids₂) : a₁ = a₂ ∧ ids₁ = ids₂ :=
  Prod.mk.inj (Except.ok.inj (h₁.symm.trans h₂))

@[simp] theorem gives_pure {c : α} : Gives (pure c) ids a ids' ↔ c = a ∧ ids = ids' := by
  change Except.ok (c, ids) = Except.ok (a, ids') ↔ _
  rw [Except.ok.injEq, Prod.mk.injEq]

@[simp] theorem gives_throw {e : ProjectError} : ¬ Gives (throw e : Reading ι α) ids a ids' := nofun

@[simp] theorem gives_fault {context : String} {f : Fault} :
    ¬ Gives (fault context f : Reading ι α) ids a ids' := nofun

theorem gives_bind {m : Reading ι α} {f : α → Reading ι β} :
    Gives (m >>= f) ids b ids' ↔ ∃ a ids₁, Gives m ids a ids₁ ∧ Gives (f a) ids₁ b ids' := by
  unfold Gives
  rw [StateT.run_bind]
  cases h : m.run ids with
  | error e => simp [bind, Except.bind]
  | ok r =>
    obtain ⟨c, ids₁⟩ := r
    simp only [Except.ok.injEq, Prod.mk.injEq, bind, Except.bind]
    constructor
    · intro hf
      exact ⟨c, ids₁, ⟨rfl, rfl⟩, hf⟩
    · rintro ⟨_, _, ⟨rfl, rfl⟩, hf⟩
      exact hf

@[simp] theorem gives_require {v : Option α} {context : String} {f : Fault} :
    Gives (require v context f) ids a ids' ↔ v = some a ∧ ids = ids' := by
  cases v with
  | none => simp [require]
  | some c => simp [require]

end

/-- A list is read item by item. -/
theorem reads_mapM {R : α → ι → β → ι → Prop} {read : α → Reading ι β} {items : List α}
    (hread : ∀ v ∈ items, Reads R read v) : Reads (Draws R) (List.mapM read) items := by
  induction items with
  | nil =>
    intro ids bs ids'
    rw [List.mapM_nil, gives_pure]
    constructor
    · rintro ⟨rfl, rfl⟩
      exact .nil
    · intro h
      cases h
      exact ⟨rfl, rfl⟩
  | cons v items ih =>
    intro ids bs ids'
    have hitem := hread v List.mem_cons_self
    have hrest := ih fun w hw => hread w (List.mem_cons_of_mem _ hw)
    simp only [List.mapM_cons, gives_bind, gives_pure, hitem _ _ _, hrest _ _ _]
    constructor
    · rintro ⟨b, ids₁, hb, bs, _, hbs, rfl, rfl⟩
      exact .cons hb hbs
    · intro h
      cases h with
      | @cons _ _ b bs _ ids₁ _ hb hbs => exact ⟨b, ids₁, hb, bs, ids', hbs, rfl, rfl⟩

/-! ## Fields -/

section
variable {ids ids' : ι} {fields : List (String × Json)} {key context : String}

theorem fields?_eq_some {v : Json} : v.fields? = some fields ↔ v = .object fields := by
  cases v <;> simp [Json.fields?]

theorem items?_eq_some {v : Json} {items : List Json} :
    v.items? = some items ↔ v = .array items := by
  cases v <;> simp [Json.items?]

theorem usableText?_eq_some {v : Option Json} {s : String} :
    usableText? v = some s ↔ v = some (.string s) ∧ isBlankText s = false := by
  cases v with
  | none => simp [usableText?]
  | some v => cases v <;> simp [usableText?, Json.string?, Option.filter_eq_some_iff]

theorem gives_optionalNumber {x : Option Float} :
    Gives (optionalNumber fields key context) ids x ids' ↔
      NumberOf (fields.lookup key) x ∧ ids = ids' := by
  unfold optionalNumber
  generalize fields.lookup key = v
  constructor
  · intro h
    split at h
    · obtain ⟨rfl, rfl⟩ := gives_pure.mp h
      exact ⟨.missing, rfl⟩
    · obtain ⟨rfl, rfl⟩ := gives_pure.mp h
      exact ⟨.null, rfl⟩
    · obtain ⟨y, ids₁, hy, hx⟩ := gives_bind.mp h
      obtain ⟨hnumber, rfl⟩ := gives_require.mp hy
      obtain ⟨rfl, rfl⟩ := gives_pure.mp hx
      obtain ⟨hfloat, hfinite⟩ := Option.filter_eq_some_iff.mp hnumber
      exact ⟨.given hfloat hfinite, rfl⟩
  · rintro ⟨hx, rfl⟩
    cases hx with
    | missing | null => exact gives_pure.mpr ⟨rfl, rfl⟩
    | @given v y hfloat hfinite =>
      have hnumber : v.float?.filter Float.isFinite = some y :=
        Option.filter_eq_some_iff.mpr ⟨hfloat, hfinite⟩
      split
      · next heq => simp at heq
      · next heq =>
        obtain rfl := Option.some.inj heq
        simp [Json.float?] at hfloat
      · next heq =>
        obtain rfl := Option.some.inj heq
        exact gives_bind.mpr ⟨y, ids, gives_require.mpr ⟨hnumber, rfl⟩, gives_pure.mpr ⟨rfl, rfl⟩⟩

theorem gives_requiredNumber {x : Float} :
    Gives (requiredNumber fields key context) ids x ids' ↔
      NumberOf (fields.lookup key) (some x) ∧ ids = ids' := by
  simp only [requiredNumber, gives_bind, gives_optionalNumber, gives_require]
  constructor
  · rintro ⟨_, _, ⟨hx, rfl⟩, rfl, rfl⟩
    exact ⟨hx, rfl⟩
  · rintro ⟨hx, rfl⟩
    exact ⟨_, _, ⟨hx, rfl⟩, rfl, rfl⟩

theorem string?_eq_none {v : Option Json} (h : ∀ s, v ≠ some (.string s)) :
    v.bind Json.string? = none := by
  cases v with
  | none => rfl
  | some v => cases v <;> first | rfl | exact absurd rfl (h _)

theorem gives_readColor {color : String} : Gives (readColor context fields) ids color ids' ↔
    ColorOf (fields.lookup "color") color ∧ ids = ids' := by
  have hread : Gives (readColor context fields) ids color ids' ↔
      ((fields.lookup "color").bind Json.string?).getD fallbackColor = color ∧
        isColor color = true ∧ ids = ids' := by
    unfold readColor
    dsimp only
    split
    · next hcolor =>
      rw [gives_pure]
      constructor
      · rintro ⟨rfl, rfl⟩
        exact ⟨rfl, hcolor, rfl⟩
      · rintro ⟨rfl, -, rfl⟩
        exact ⟨rfl, rfl⟩
    · next hcolor =>
      constructor
      · intro h
        exact absurd h gives_throw
      · rintro ⟨rfl, h, -⟩
        exact absurd h hcolor
  rw [hread]
  generalize fields.lookup "color" = v
  constructor
  · rintro ⟨hcolor, hvalid, rfl⟩
    by_cases htext : ∃ s, v = some (.string s)
    · obtain ⟨s, rfl⟩ := htext
      obtain rfl : s = color := hcolor
      exact ⟨.given hvalid, rfl⟩
    · have hmissing : ∀ s, v ≠ some (.string s) := fun s hs => htext ⟨s, hs⟩
      rw [string?_eq_none hmissing] at hcolor
      obtain rfl : fallbackColor = color := hcolor
      exact ⟨.missing hmissing, rfl⟩
  · rintro ⟨hcolor, rfl⟩
    cases hcolor with
    | given hvalid => exact ⟨rfl, hvalid, rfl⟩
    | missing hmissing =>
      rw [string?_eq_none hmissing]
      exact ⟨rfl, by decide, rfl⟩

theorem gives_readParam {v : Json} {value : ParamValue} :
    Gives (readParam context v) ids value ids' ↔ ParamOf v value ∧ ids = ids' := by
  constructor
  · intro h
    cases v with
    | int | float =>
      obtain ⟨rfl, rfl⟩ := gives_pure.mp h
      exact ⟨.number rfl, rfl⟩
    | string =>
      obtain ⟨rfl, rfl⟩ := gives_pure.mp h
      exact ⟨.text, rfl⟩
    | null =>
      obtain ⟨rfl, rfl⟩ := gives_pure.mp h
      exact ⟨.absent, rfl⟩
    | bool | array | object => exact absurd h gives_fault
  · rintro ⟨hvalue, rfl⟩
    cases hvalue with
    | @number v x hx =>
      cases v with
      | int | float =>
        obtain rfl := Option.some.inj hx
        exact gives_pure.mpr ⟨rfl, rfl⟩
      | null | bool | string | array | object => simp [Json.float?] at hx
    | text | absent => exact gives_pure.mpr ⟨rfl, rfl⟩

/-- Parameters are put over others one by one. -/
theorem gives_readParamFields {entries : List (String × Json)} {params params' : Params} :
    Gives (readParamFields context params entries) ids params' ids' ↔
      (∃ values : List (String × ParamValue), List.Forall₂
        (fun entry value => entry.1 = value.1 ∧ ParamOf entry.2 value.2) entries values ∧
          values.foldl (fun params value => params.insert value.1 value.2) params = params') ∧
        ids = ids' := by
  induction entries generalizing params ids with
  | nil => simp [readParamFields]
  | cons entry entries ih =>
    obtain ⟨key, v⟩ := entry
    have hcons : readParamFields (ι := ι) context params ((key, v) :: entries) =
        (readParam context v >>= fun value =>
          readParamFields context (params.insert key value) entries) := by
      simp only [readParamFields, List.foldlM_cons, bind_assoc, pure_bind]
    rw [hcons, gives_bind]
    simp only [gives_readParam, ih]
    constructor
    · rintro ⟨value, _, ⟨hvalue, rfl⟩, ⟨values, hvalues, rfl⟩, rfl⟩
      exact ⟨⟨(key, value) :: values, .cons ⟨rfl, hvalue⟩ hvalues, rfl⟩, rfl⟩
    · rintro ⟨⟨values, hvalues, rfl⟩, rfl⟩
      obtain ⟨⟨_, value⟩, rest, ⟨rfl, hvalue⟩, hrest, rfl⟩ :=
        List.forall₂_cons_left_iff.mp hvalues
      exact ⟨value, ids, ⟨hvalue, rfl⟩, ⟨rest, hrest, rfl⟩, rfl⟩

theorem gives_readParams {kind : BlockKind} {params : Params} :
    Gives (readParams context kind fields) ids params ids' ↔
      ParamsOf kind (fields.lookup "params") params ∧ ids = ids' := by
  unfold readParams
  generalize fields.lookup "params" = v
  cases v with
  | none =>
    rw [gives_pure]
    constructor
    · rintro ⟨rfl, rfl⟩
      exact ⟨.missing, rfl⟩
    · rintro ⟨hparams, rfl⟩
      cases hparams
      exact ⟨rfl, rfl⟩
  | some v =>
    simp only [gives_bind, gives_require, gives_readParamFields]
    constructor
    · rintro ⟨entries, _, ⟨hentries, rfl⟩, ⟨values, hvalues, rfl⟩, rfl⟩
      cases v with
      | object =>
        obtain rfl := Option.some.inj hentries
        exact ⟨.given hvalues, rfl⟩
      | null | bool | int | float | string | array => simp [Json.fields?] at hentries
    · rintro ⟨hparams, rfl⟩
      cases hparams with
      | given hvalues => exact ⟨_, ids, ⟨rfl, rfl⟩, ⟨_, hvalues, rfl⟩, rfl⟩

theorem gives_readKind {kind : BlockKind} : Gives (readKind context fields) ids kind ids' ↔
    fields.lookup "type" = some (.string kind.name) ∧ ids = ids' := by
  unfold readKind
  generalize fields.lookup "type" = v
  simp only [gives_bind, gives_require]
  constructor
  · rintro ⟨name, _, ⟨hname, rfl⟩, h⟩
    have hstring : v = some (.string name) := by
      by_contra hne
      have hother : ∀ s, v ≠ some (.string s) := by
        rintro s rfl
        obtain rfl : s = name := Option.some.inj hname
        exact hne rfl
      simp [string?_eq_none hother] at hname
    split at h
    · next kind' hkind =>
      obtain ⟨rfl, rfl⟩ := gives_pure.mp h
      exact ⟨(BlockKind.ofName?_eq_some_iff name kind').mp hkind ▸ hstring, rfl⟩
    · exact absurd h gives_throw
  · rintro ⟨rfl, rfl⟩
    refine ⟨kind.name, ids, ⟨rfl, rfl⟩, ?_⟩
    rw [(BlockKind.ofName?_eq_some_iff _ kind).mpr rfl]
    exact gives_pure.mpr ⟨rfl, rfl⟩

end

section
variable [IdSource ι] {ids ids' : ι} {fields : List (String × Json)} {context : String}

theorem gives_readId {id : String} :
    Gives (readId fields) ids id ids' ↔ IdOf (fields.lookup "id") ids id ids' := by
  unfold readId
  generalize fields.lookup "id" = v
  cases husable : usableText? v with
  | some s =>
    obtain ⟨rfl, hblank⟩ := usableText?_eq_some.mp husable
    rw [gives_pure]
    constructor
    · rintro ⟨rfl, rfl⟩
      exact .own hblank
    · intro h
      cases h with
      | own => exact ⟨rfl, rfl⟩
      | drawn hunusable => simp [hunusable s rfl] at hblank
  | none =>
    have hunusable : ∀ s, v = some (.string s) → isBlankText s = true := by
      intro s hv
      by_contra hblank
      have hsome := usableText?_eq_some.mpr ⟨hv, (Bool.not_eq_true _).mp hblank⟩
      simp [husable] at hsome
    have hdraw : Gives drawId ids id ids' ↔ IdSource.next ids = (id, ids') :=
      (Except.ok.injEq (IdSource.next ids) (id, ids')).to_iff
    rw [hdraw]
    constructor
    · intro h
      have hdrawn : IdOf v ids (IdSource.next ids).1 (IdSource.next ids).2 := .drawn hunusable
      rwa [h] at hdrawn
    · intro h
      cases h with
      | own hblank => simp [hunusable id rfl] at hblank
      | drawn => rfl

/-! ## Lists and blocks -/

theorem readBlockItems_eq (context : String) (items : List Json) :
    readBlockItems (ι := ι) context items = items.mapM (readBlock context) := by
  induction items with
  | nil => rw [readBlockItems, List.mapM_nil]
  | cons v items ih => rw [readBlockItems, List.mapM_cons, ih]

/-- The blocks inside a block are found in the field `children`. -/
theorem readChildren_eq (kind : BlockKind) :
    readChildren (ι := ι) context kind fields =
      match fields.lookup "children" with
      | none => pure []
      | some v => readBlocks context v >>= fun children =>
        if kind.isLoop || children.isEmpty then pure children
        else throw (.unexpectedChildren context kind) := by
  induction fields with
  | nil => rw [readChildren]; rfl
  | cons field fields ih =>
    obtain ⟨key, v⟩ := field
    rw [readChildren, List.lookup_cons]
    by_cases hkey : key = "children"
    · simp [hkey]
    · have hne : ("children" == key) = false := beq_eq_false_iff_ne.mpr (Ne.symm hkey)
      rw [if_neg hkey, hne]
      exact ih

theorem gives_readBlocks {v : Json} (hread : ∀ items, v = .array items →
      ∀ w ∈ items, Reads BlockOf (readBlock (ι := ι) context) w) {bs : List Block} :
    Gives (readBlocks context v) ids bs ids' ↔ ListOf BlockOf (some v) ids bs ids' := by
  cases v with
  | array items =>
    rw [readBlocks, readBlockItems_eq, reads_mapM (hread items rfl)]
    constructor
    · exact .given
    · intro h
      cases h with
      | given hitems => exact hitems
  | null | bool | int | float | string | object =>
    constructor
    · simp [readBlocks]
    · nofun

theorem gives_readChildren {kind : BlockKind} (hread : ∀ items,
      fields.lookup "children" = some (.array items) →
        ∀ w ∈ items, Reads BlockOf (readBlock (ι := ι) context) w) {bs : List Block} :
    Gives (readChildren context kind fields) ids bs ids' ↔
      ListOf BlockOf (fields.lookup "children") ids bs ids' ∧ (bs ≠ [] → kind = .loop) := by
  rw [readChildren_eq]
  generalize fields.lookup "children" = v at hread
  cases v with
  | none =>
    rw [gives_pure]
    constructor
    · rintro ⟨rfl, rfl⟩
      exact ⟨.missing, by simp⟩
    · rintro ⟨h, -⟩
      cases h
      exact ⟨rfl, rfl⟩
  | some v =>
    simp only [gives_bind, gives_readBlocks fun items hitems => hread items (congrArg some hitems)]
    constructor
    · rintro ⟨cs, ids₁, hcs, h⟩
      split at h
      · next hallowed =>
        obtain ⟨rfl, rfl⟩ := gives_pure.mp h
        refine ⟨hcs, ?_⟩
        intro hne
        simpa [hne, BlockKind.isLoop] using hallowed
      · exact absurd h gives_throw
    · rintro ⟨hbs, hloop⟩
      refine ⟨bs, ids', hbs, ?_⟩
      have hallowed : (kind.isLoop || bs.isEmpty) = true := by
        by_cases hne : bs = []
        · simp [hne]
        · simp [hloop hne, BlockKind.isLoop]
      rw [if_pos hallowed]
      exact gives_pure.mpr ⟨rfl, rfl⟩

/-- **A block is read as what it describes.** -/
theorem reads_readBlock (context : String) (v : Json) :
    Reads BlockOf (readBlock (ι := ι) context) v := by
  induction v using Json.inside_induction with
  | step v ih =>
    intro ids b ids'
    cases v with
    | object fields =>
      have hchildren (kind : BlockKind) (ids ids' : ι) (bs : List Block) :
          Gives (readChildren context kind fields) ids bs ids' ↔
            ListOf BlockOf (fields.lookup "children") ids bs ids' ∧ (bs ≠ [] → kind = .loop) :=
        gives_readChildren fun items hitems w hw => ih fields "children" items w rfl hitems hw
      simp only [readBlock, gives_bind, gives_pure, gives_readKind, gives_readId, gives_readParams,
        hchildren]
      constructor
      · rintro ⟨kind, _, ⟨hkind, rfl⟩, id, ids₁, hid, params, _, ⟨hparams, rfl⟩, children, ids₂,
          ⟨hchildren, hloop⟩, rfl, rfl⟩
        exact .object hkind hid hparams hchildren hloop
      · intro h
        cases h with
        | @object _ id kind params children _ ids₁ _ hkind hid hparams hchildren hloop =>
          exact ⟨kind, ids, ⟨hkind, rfl⟩, id, ids₁, hid, params, ids₁, ⟨hparams, rfl⟩, children,
            ids', ⟨hchildren, hloop⟩, rfl, rfl⟩
    | null | bool | int | float | string | array =>
      constructor
      · simp [readBlock]
      · nofun

/-! ## Scripts and sprites -/

theorem reads_readScript (context : String) (v : Json) :
    Reads ScriptOf (readScript (ι := ι) context) v := by
  intro ids script ids'
  simp only [readScript, gives_bind, gives_require, gives_readId]
  constructor
  · rintro ⟨fields, _, ⟨hfields, rfl⟩, id, ids₁, hid, hbody⟩
    obtain rfl := fields?_eq_some.mp hfields
    split at hbody
    · next v hv =>
      obtain ⟨blocks, ids₂, hblocks, hscript⟩ := gives_bind.mp hbody
      obtain ⟨rfl, rfl⟩ := gives_pure.mp hscript
      rw [gives_readBlocks fun _ _ w _ => reads_readBlock context w] at hblocks
      exact .object hid (hv ▸ hblocks)
    · next hnone =>
      obtain ⟨rfl, rfl⟩ := gives_pure.mp hbody
      exact .object hid (hnone ▸ .missing)
  · intro h
    cases h with
    | @object fields id blocks _ ids₁ _ hid hblocks =>
      refine ⟨fields, ids, ⟨rfl, rfl⟩, id, ids₁, hid, ?_⟩
      split
      · next v hv =>
        rw [hv, ← gives_readBlocks fun _ _ w _ => reads_readBlock context w] at hblocks
        exact gives_bind.mpr ⟨blocks, ids', hblocks, gives_pure.mpr ⟨rfl, rfl⟩⟩
      · next hnone =>
        rw [hnone] at hblocks
        cases hblocks
        exact gives_pure.mpr ⟨rfl, rfl⟩

theorem gives_readScripts {scripts : List Script} :
    Gives (readScripts context fields) ids scripts ids' ↔
      ListOf ScriptOf (fields.lookup "scripts") ids scripts ids' := by
  unfold readScripts
  generalize fields.lookup "scripts" = v
  cases v with
  | none =>
    rw [gives_pure]
    constructor
    · rintro ⟨rfl, rfl⟩
      exact .missing
    · intro h
      cases h
      exact ⟨rfl, rfl⟩
  | some v =>
    simp only [gives_bind, gives_require, reads_mapM (fun w _ => reads_readScript context w) _ _ _]
    constructor
    · rintro ⟨items, _, ⟨hitems, rfl⟩, hscripts⟩
      obtain rfl := items?_eq_some.mp hitems
      exact .given hscripts
    · intro h
      cases h with
      | @given items _ _ _ hscripts => exact ⟨items, ids, ⟨rfl, rfl⟩, hscripts⟩

theorem firstRepeated?_eq_none {seen ss : List String} :
    firstRepeated? seen ss = none ↔ ss.Nodup ∧ ∀ s ∈ ss, s ∉ seen := by
  induction ss generalizing seen with
  | nil => simp [firstRepeated?]
  | cons s ss ih =>
    rw [firstRepeated?]
    split
    · next hseen => simp [List.contains_iff_mem.mp hseen]
    · next hseen =>
      rw [ih]
      simp only [List.contains_iff_mem] at hseen
      simp only [List.mem_cons, not_or, List.nodup_cons, forall_eq_or_imp]
      constructor
      · rintro ⟨hnodup, hrest⟩
        exact ⟨⟨fun hs => (hrest s hs).1 rfl, hnodup⟩, hseen, fun t ht => (hrest t ht).2⟩
      · rintro ⟨⟨hs, hnodup⟩, -, hrest⟩
        exact ⟨hnodup, fun t ht => ⟨fun heq => hs (heq ▸ ht), hrest t ht⟩⟩

/-- **A sprite is read as what it describes, unless ids of blocks repeat.** -/
theorem gives_readSprite {v : Json} {index : Nat} {sprite : Sprite} :
    Gives (readSprite v index) ids sprite ids' ↔
      SpriteOf v ids sprite ids' ∧ sprite.blockIds.Nodup := by
  unfold readSprite
  simp only [gives_bind, gives_require, usableText?_eq_some, gives_readId, gives_readColor,
    gives_requiredNumber, gives_optionalNumber]
  constructor
  · rintro ⟨fields, _, ⟨hfields, rfl⟩, name, _, ⟨⟨hname, hblank⟩, rfl⟩, id, ids₁, hid, color, _,
      ⟨hcolor, rfl⟩, x, _, ⟨hx, rfl⟩, y, _, ⟨hy, rfl⟩, rotation, _, ⟨hrotation, rfl⟩, width, _,
      ⟨hwidth, rfl⟩, height, _, ⟨hheight, rfl⟩, hbody⟩
    obtain rfl := fields?_eq_some.mp hfields
    split at hbody
    · exact absurd hbody gives_fault
    · next hpositive =>
      rw [Bool.or_eq_true, not_or, decide_eq_true_iff, decide_eq_true_iff,
        hwidth.positive_iff, hheight.positive_iff] at hpositive
      obtain ⟨scripts, ids₂, hscripts, hunique⟩ := gives_bind.mp hbody
      split at hunique
      · exact absurd hunique gives_throw
      · next hnone =>
        obtain ⟨rfl, rfl⟩ := gives_pure.mp hunique
        exact ⟨.object hname hblank hid hcolor hx hy hrotation hwidth hheight hpositive.1
          hpositive.2 (gives_readScripts.mp hscripts), (firstRepeated?_eq_none.mp hnone).1⟩
  · rintro ⟨h, hunique⟩
    cases h with
    | @object fields id name color x y rotation width height scripts _ ids₁ _ hname hblank hid
        hcolor hx hy hrotation hwidth hheight hw hh hscripts =>
      refine ⟨fields, ids, ⟨rfl, rfl⟩, name, ids, ⟨⟨hname, hblank⟩, rfl⟩, id, ids₁, hid, color, ids₁,
        ⟨hcolor, rfl⟩, x, ids₁, ⟨hx, rfl⟩, y, ids₁, ⟨hy, rfl⟩, rotation, ids₁, ⟨hrotation, rfl⟩,
        width, ids₁, ⟨hwidth, rfl⟩, height, ids₁, ⟨hheight, rfl⟩, ?_⟩
      have hpositive : ¬ (decide (width.getD defaultSize ≤ 0) ||
          decide (height.getD defaultSize ≤ 0)) = true := by
        rw [Bool.or_eq_true, not_or, decide_eq_true_iff, decide_eq_true_iff,
          hwidth.positive_iff, hheight.positive_iff]
        exact ⟨hw, hh⟩
      have hnone := firstRepeated?_eq_none.mpr ⟨hunique, fun s _ => List.not_mem_nil⟩
      rw [if_neg hpositive]
      refine gives_bind.mpr ⟨scripts, ids', gives_readScripts.mpr hscripts, ?_⟩
      split
      · next heq => exact absurd (hnone.symm.trans heq) (by simp)
      · exact gives_pure.mpr ⟨rfl, rfl⟩

/-- What the sprites of a list are read as that do not have any of some ids. -/
theorem gives_readSprites {seen : List String} {index : Nat} {items : List Json}
    {sprites : List Sprite} : Gives (readSprites seen index items) ids sprites ids' ↔
      Draws SpriteOf items ids sprites ids' ∧ (∀ sprite ∈ sprites, sprite.blockIds.Nodup) ∧
        (sprites.map (·.id)).Nodup ∧ ∀ id ∈ sprites.map (·.id), id ∉ seen := by
  induction items generalizing seen index ids sprites with
  | nil =>
    rw [readSprites, gives_pure]
    constructor
    · rintro ⟨rfl, rfl⟩
      exact ⟨.nil, by simp⟩
    · rintro ⟨h, -⟩
      cases h
      exact ⟨rfl, rfl⟩
  | cons v items ih =>
    simp only [readSprites, gives_bind, gives_readSprite]
    constructor
    · rintro ⟨sprite, ids₁, ⟨hsprite, hblocks⟩, hbody⟩
      split at hbody
      · exact absurd hbody gives_throw
      · next hseen =>
        obtain ⟨rest, ids₂, hrest, hsprites⟩ := gives_bind.mp hbody
        obtain ⟨rfl, rfl⟩ := gives_pure.mp hsprites
        obtain ⟨hdraws, hall, hnodup, hnew⟩ := ih.mp hrest
        rw [List.contains_iff_mem] at hseen
        refine ⟨.cons hsprite hdraws, ?_, ?_, ?_⟩
        · simpa using ⟨hblocks, hall⟩
        · rw [List.map_cons, List.nodup_cons]
          exact ⟨fun hmem => hnew _ hmem List.mem_cons_self, hnodup⟩
        · rw [List.map_cons, List.forall_mem_cons]
          exact ⟨hseen, fun id hid hmem => hnew id hid (List.mem_cons_of_mem _ hmem)⟩
    · rintro ⟨h, hall, hnodup, hnew⟩
      cases h with
      | @cons _ _ sprite rest _ ids₁ _ hsprite hdraws =>
        rw [List.forall_mem_cons] at hall
        rw [List.map_cons, List.nodup_cons] at hnodup
        rw [List.map_cons, List.forall_mem_cons] at hnew
        refine ⟨sprite, ids₁, ⟨hsprite, hall.1⟩, ?_⟩
        rw [if_neg (by simpa using hnew.1)]
        refine gives_bind.mpr ⟨rest, ids', ih.mpr ⟨hdraws, hall.2, hnodup.2, ?_⟩,
          gives_pure.mpr ⟨rfl, rfl⟩⟩
        intro id hid
        rw [List.mem_cons, not_or]
        exact ⟨fun heq => hnodup.1 (heq ▸ hid), hnew.2 id hid⟩

/-- **A project is read as what the document describes, unless ids repeat.** -/
theorem gives_readProject {root : Json} {p : Project} :
    Gives (readProject root) ids p ids' ↔ ProjectOf root ids p ids' ∧ p.Distinct := by
  simp only [readProject, gives_bind, gives_require]
  constructor
  · rintro ⟨items, _, ⟨hitems, rfl⟩, hbody⟩
    obtain ⟨v, hfield, hv⟩ := Option.bind_eq_some_iff.mp hitems
    obtain rfl := items?_eq_some.mp hv
    split at hbody
    · exact absurd hbody gives_throw
    · next hne =>
      obtain ⟨sprites, ids₁, hsprites, hproject⟩ := gives_bind.mp hbody
      obtain ⟨rfl, rfl⟩ := gives_pure.mp hproject
      obtain ⟨hdraws, hblocks, hnodup, -⟩ := gives_readSprites.mp hsprites
      cases root with
      | object fields =>
        exact ⟨.object hfield (by simpa using hne) hdraws, hnodup, hblocks⟩
      | null | bool | int | float | string | array => simp [Json.field?] at hfield
  · rintro ⟨h, hdistinct⟩
    cases h with
    | @object fields items sprites _ _ hfield hne hdraws =>
      have hitems : ((Json.object fields).field? "sprites").bind Json.items? = some items :=
        Option.bind_eq_some_iff.mpr ⟨_, hfield, rfl⟩
      refine ⟨items, ids, ⟨hitems, rfl⟩, ?_⟩
      rw [if_neg (by simpa using hne)]
      exact gives_bind.mpr ⟨sprites, ids', gives_readSprites.mpr
        ⟨hdraws, hdistinct.blocks, hdistinct.sprites, fun _ _ => List.not_mem_nil⟩,
        gives_pure.mpr ⟨rfl, rfl⟩⟩

end

end Reading

/-! ## A document describes one project at most -/

section
variable {ι : Type}

/-- What a value describes is determined. -/
def Describes.Unique {α β : Type} (R : α → ι → β → ι → Prop) : Prop :=
  ∀ v ids b₁ ids₁ b₂ ids₂, R v ids b₁ ids₁ → R v ids b₂ ids₂ → b₁ = b₂ ∧ ids₁ = ids₂

namespace Describes

theorem Unique.draws {α β : Type} {R : α → ι → β → ι → Prop} (h : Unique R) : Unique (Draws R) := by
  intro items
  induction items with
  | nil =>
    intro ids bs₁ ids₁ bs₂ ids₂ h₁ h₂
    cases h₁
    cases h₂
    exact ⟨rfl, rfl⟩
  | cons v items ih =>
    intro ids bs₁ ids₁ bs₂ ids₂ h₁ h₂
    cases h₁ with
    | cons hb₁ hbs₁ =>
      cases h₂ with
      | cons hb₂ hbs₂ =>
        obtain ⟨rfl, rfl⟩ := h _ _ _ _ _ _ hb₁ hb₂
        obtain ⟨rfl, rfl⟩ := ih _ _ _ _ _ hbs₁ hbs₂
        exact ⟨rfl, rfl⟩

theorem Unique.listOf {β : Type} {R : Json → ι → β → ι → Prop} (h : Unique R) :
    Unique (ListOf R) := by
  intro field ids bs₁ ids₁ bs₂ ids₂ h₁ h₂
  cases h₁ with
  | missing =>
    cases h₂
    exact ⟨rfl, rfl⟩
  | given hbs₁ =>
    cases h₂ with
    | given hbs₂ => exact h.draws _ _ _ _ _ _ hbs₁ hbs₂

theorem unique_of_reads {α β : Type} {R : α → ι → β → ι → Prop} {read : α → Reading ι β}
    (h : ∀ v, Reading.Reads R read v) : Unique R := by
  intro v ids b₁ ids₁ b₂ ids₂ h₁ h₂
  exact ((h v _ _ _).mpr h₁).unique ((h v _ _ _).mpr h₂)

end Describes

theorem NumberOf.unique {field : Option Json} {x y : Option Float} (hx : NumberOf field x)
    (hy : NumberOf field y) : x = y := by
  cases hx with
  | missing =>
    cases hy
    rfl
  | null =>
    cases hy with
    | null => rfl
    | given h => simp [Json.float?] at h
  | given h =>
    cases hy with
    | null => simp [Json.float?] at h
    | given h' => exact h.symm.trans h'

theorem ColorOf.unique {field : Option Json} {a b : String} (ha : ColorOf field a)
    (hb : ColorOf field b) : a = b := by
  cases ha with
  | given =>
    cases hb with
    | given => rfl
    | missing h => exact absurd rfl (h _)
  | missing h =>
    cases hb with
    | given => exact absurd rfl (h _)
    | missing => rfl

variable [IdSource ι]

theorem SpriteOf.unique : Describes.Unique (SpriteOf (ι := ι)) := by
  have hscript : Describes.Unique (ScriptOf (ι := ι)) :=
    Describes.unique_of_reads (Reading.reads_readScript "")
  intro v ids s₁ ids₁ s₂ ids₂ h₁ h₂
  cases h₁ with
  | object hname hblank hid hcolor hx hy hrotation hwidth hheight hw hh hscripts =>
    cases h₂ with
    | object hname' hblank' hid' hcolor' hx' hy' hrotation' hwidth' hheight' hw' hh' hscripts' =>
      obtain rfl := Json.string.inj (Option.some.inj (hname.symm.trans hname'))
      obtain ⟨rfl, rfl⟩ := (Reading.gives_readId.mpr hid).unique (Reading.gives_readId.mpr hid')
      obtain rfl := hcolor.unique hcolor'
      obtain rfl := Option.some.inj (hx.unique hx')
      obtain rfl := Option.some.inj (hy.unique hy')
      obtain rfl := hrotation.unique hrotation'
      obtain rfl := hwidth.unique hwidth'
      obtain rfl := hheight.unique hheight'
      obtain ⟨rfl, rfl⟩ := hscript.listOf _ _ _ _ _ _ hscripts hscripts'
      exact ⟨rfl, rfl⟩

theorem ProjectOf.unique : Describes.Unique (ProjectOf (ι := ι)) := by
  intro root ids p₁ ids₁ p₂ ids₂ h₁ h₂
  cases h₁ with
  | object hsprites hne hdraws =>
    cases h₂ with
    | object hsprites' hne' hdraws' =>
      obtain rfl := Json.array.inj (Option.some.inj (hsprites.symm.trans hsprites'))
      obtain ⟨rfl, rfl⟩ := SpriteOf.unique.draws _ _ _ _ _ _ hdraws hdraws'
      exact ⟨rfl, rfl⟩

end

/-! ## Reading a project -/

/-- **A document is read just if it has the format and ids do not repeat, and then as what it
describes.** A document that has the format describes just one project, whatever the source of ids;
this project comes out of the reading if its sprites have distinct ids and the blocks of each sprite
have, and nothing else comes out. -/
theorem Project.ofJson_reads {ι : Type} [IdSource ι] (root : Json) (ids : ι) :
    (root.IsProject ↔ ∃! d : Project × ι, ProjectOf root ids d.1 d.2) ∧
    (∀ p ids', ofJson root ids = .ok (p, ids') ↔ ProjectOf root ids p ids' ∧ p.Distinct) ∧
    ((∃ p ids', ofJson root ids = .ok (p, ids')) ↔
      root.IsProject ∧ ∀ p ids', ProjectOf root ids p ids' → p.Distinct) := by
  have hreads : ∀ p ids', ofJson root ids = .ok (p, ids') ↔
      ProjectOf root ids p ids' ∧ p.Distinct := fun p ids' => Reading.gives_readProject
  refine ⟨?_, hreads, ?_⟩
  · rw [isProject_iff root ids]
    constructor
    · rintro ⟨p, ids', h⟩
      refine ⟨(p, ids'), h, ?_⟩
      rintro ⟨p', ids''⟩ h'
      obtain ⟨rfl, rfl⟩ := ProjectOf.unique _ _ _ _ _ _ h' h
      rfl
    · rintro ⟨d, h, -⟩
      exact ⟨d.1, d.2, h⟩
  · constructor
    · rintro ⟨p, ids', h⟩
      obtain ⟨hdescribed, hdistinct⟩ := (hreads p ids').mp h
      refine ⟨(isProject_iff root ids).mpr ⟨p, ids', hdescribed⟩, ?_⟩
      intro p' ids'' h'
      obtain ⟨rfl, -⟩ := ProjectOf.unique _ _ _ _ _ _ h' hdescribed
      exact hdistinct
    · rintro ⟨hformat, hdistinct⟩
      obtain ⟨p, ids', hdescribed⟩ := (isProject_iff root ids).mp hformat
      exact ⟨p, ids', (hreads p ids').mpr ⟨hdescribed, hdistinct p ids' hdescribed⟩⟩

/-- A loop with an id of its own, and a sprite, a script and a block inside the loop without. -/
example : (Project.ofJson (.ofFields [("sprites", .array [.ofFields [("name", .string "Cat"),
    ("x", .int 1), ("y", .int 2), ("scripts", .array [.ofFields [("blocks", .array [.ofFields
      [("type", .string "repeat"), ("id", .string "b"), ("children", .array [.ofFields
        [("type", .string "say")]])]])]])]])]) ({} : SequentialIds)).toOption.map (fun read =>
      (read.1.sprites.map fun x => (x.id, x.blockIds), read.2.count)) =
    some ([("id-1", ["b", "id-3"])], 3) := by rfl

end SpriteScript
