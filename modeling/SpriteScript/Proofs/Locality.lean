/-
  What edits leave as it is.

  * `Project.settled` is an answer to an editor, with the project and the source of ids afterwards;
  * `Project.Edits` are the outcomes of an edit; `edits_editFirstScript`: **there are no others**;
  * `Project.editFirstScript_local`: **an edit changes one script at most**, or leaves everything as
    it is, and one that misses its block alters no script.
-/
import Mathlib.Data.List.Forall2
import SpriteScript.Project.Edit
import SpriteScript.Proofs.Outline

namespace SpriteScript

namespace Project

section
variable {ι : Type} [IdSource ι]

/-! ## Answers -/

/-- An answer, with the project and the source of ids as they are afterwards: as before if the edit
fails. -/
def settled (p : Project) (ids : ι) :
    Except ProjectError (Bool × Project × ι) → Except ProjectError Bool × Project × ι
  | .ok (changed, p', ids') => (.ok changed, p', ids')
  | .error fault => (.error fault, p, ids)

/-- The first sprite with an id, with those before it and those behind it. -/
structure FirstAt (p : Project) (id : String) (before : List Sprite) (sprite : Sprite)
    (behind : List Sprite) : Prop where
  sprites : p.sprites = before ++ sprite :: behind
  own : sprite.id = id
  first : ∀ s ∈ before, s.id ≠ id

/-- The outcomes of an edit. -/
inductive Edits (p : Project) (id : String) (e : Edit) (ids : ι) :
    Except ProjectError (Bool × Project × ι) → Prop where
  | unknown : (∀ s ∈ p.sprites, s.id ≠ id) → Edits p id e ids (.error (.unknownSprite id))
  | kept {before behind : List Sprite} {sprite : Sprite} {script : Script} {rest : List Script} :
      p.FirstAt id before sprite behind → sprite.scripts = script :: rest →
      e script.blocks = none → Edits p id e ids (.ok (false, p, ids))
  | changed {before behind : List Sprite} {sprite : Sprite} {script : Script} {rest : List Script}
      {blocks : Forest} : p.FirstAt id before sprite behind → sprite.scripts = script :: rest →
      e script.blocks = some blocks → Edits p id e ids (.ok (true,
        ⟨before ++ { sprite with scripts := { script with blocks } :: rest } :: behind⟩, ids))
  | created {before behind : List Sprite} {sprite : Sprite} : p.FirstAt id before sprite behind →
      sprite.scripts = [] → Edits p id e ids (.ok (true,
        ⟨before ++ { sprite with scripts := [⟨(IdSource.next ids).1, e.apply []⟩] } :: behind⟩,
        (IdSource.next ids).2))

variable {p : Project} {id : String} {before behind : List Sprite} {sprite : Sprite}

theorem sprite?_eq_none : p.sprite? id = none ↔ ∀ s ∈ p.sprites, s.id ≠ id := by
  simp [sprite?]

theorem FirstAt.sprite? (h : p.FirstAt id before sprite behind) : p.sprite? id = some sprite := by
  rw [Project.sprite?, h.sprites, List.find?_eq_some_iff_append]
  exact ⟨by simpa using h.own, before, behind, rfl, by simpa using h.first⟩

theorem exists_firstAt (h : p.sprite? id = some sprite) :
    ∃ before behind, p.FirstAt id before sprite behind := by
  obtain ⟨hid, before, behind, hsprites, hbefore⟩ := List.find?_eq_some_iff_append.mp h
  exact ⟨before, behind, hsprites, by simpa using hid, by simpa using hbefore⟩

theorem FirstAt.editFirstScript (h : p.FirstAt id before sprite behind) (e : Edit) (ids : ι) :
    p.editFirstScript id e ids = .ok ((editSprite e sprite ids).1,
      ⟨before ++ (editSprite e sprite ids).2.1 :: behind⟩, (editSprite e sprite ids).2.2) := by
  have hfind : p.sprites.findIdx? (·.id == id) = some before.length := by
    have hnone : before.findIdx? (·.id == id) = none := by simpa using h.first
    simp [h.sprites, List.findIdx?_append, List.findIdx?_cons, hnone, h.own]
  have hget : p.sprites[before.length]? = some sprite := by simp [h.sprites]
  have hset (s : Sprite) : p.sprites.set before.length s = before ++ s :: behind := by
    simp [h.sprites]
  rw [Project.editFirstScript, hfind]
  dsimp only
  rw [hget]
  dsimp only
  rw [hset]

/-- **An edit has one of the outcomes.** -/
theorem edits_editFirstScript (p : Project) (id : String) (e : Edit) (ids : ι) :
    Edits p id e ids (p.editFirstScript id e ids) := by
  cases hfind : p.sprite? id with
  | none =>
    have hnone := sprite?_eq_none.mp hfind
    have hindex : p.sprites.findIdx? (·.id == id) = none := by simpa using hnone
    rw [editFirstScript, hindex]
    exact .unknown hnone
  | some sprite =>
    obtain ⟨before, behind, hfirst⟩ := exists_firstAt hfind
    rw [hfirst.editFirstScript]
    cases hscripts : sprite.scripts with
    | nil =>
      rw [editSprite, hscripts]
      exact .created hfirst hscripts
    | cons script rest =>
      rw [editSprite, hscripts]
      cases hedit : e script.blocks with
      | none =>
        simp only [hedit, ← hfirst.sprites]
        exact .kept hfirst hscripts hedit
      | some blocks =>
        simp only [hedit]
        exact .changed hfirst hscripts hedit

/-! ## What follows from an outcome -/

/-- The blocks of the first script of the first sprite with an id, if it has a script. -/
def firstForest? (p : Project) (id : String) : Option Forest :=
  (p.sprite? id).bind fun sprite => sprite.scripts.head?.map (·.blocks)

theorem FirstAt.firstForest? (h : p.FirstAt id before sprite behind) :
    p.firstForest? id = sprite.scripts.head?.map (·.blocks) := by
  rw [Project.firstForest?, h.sprite?, Option.bind_some]

/-- The sprites of a project are as in another, but for scripts that may come behind the others. -/
def Extends (p' p : Project) : Prop :=
  List.Forall₂ (fun s s' => ∃ more, s' = { s with scripts := s.scripts ++ more }) p.sprites
    p'.sprites

theorem extends_refl (p : Project) : p.Extends p :=
  List.forall₂_same.mpr fun s _ => ⟨[], by simp⟩

namespace Edits

variable {e : Edit} {ids : ι} {done : Except ProjectError (Bool × Project × ι)}

theorem unknown_iff (h : Edits p id e ids done) :
    (p.settled ids done).1 = .error (.unknownSprite id) ↔ ∀ s ∈ p.sprites, s.id ≠ id := by
  cases h with
  | unknown hnone => exact iff_of_true rfl hnone
  | kept hfirst | changed hfirst | created hfirst =>
    refine iff_of_false (by simp [settled]) fun hnone => ?_
    exact hnone _ (by simp [hfirst.sprites]) hfirst.own

theorem kept_iff (h : Edits p id e ids done) :
    (p.settled ids done).1 = .ok false ↔
      ∃ forest, p.firstForest? id = some forest ∧ e forest = none := by
  cases h with
  | unknown hnone => simp [settled, firstForest?, sprite?_eq_none.mpr hnone]
  | kept hfirst hscripts hedit => simp [settled, hfirst.firstForest?, hscripts, hedit]
  | changed hfirst hscripts hedit => simp [settled, hfirst.firstForest?, hscripts, hedit]
  | created hfirst hscripts => simp [settled, hfirst.firstForest?, hscripts]

/-- Unless the answer is that the project changes, nothing does. -/
theorem same (h : Edits p id e ids done) (hanswer : (p.settled ids done).1 ≠ .ok true) :
    (p.settled ids done).2 = (p, ids) := by
  cases h with
  | unknown | kept => rfl
  | changed | created => exact absurd rfl hanswer

/-- If the project changes, it does so in one script. -/
theorem changes (h : Edits p id e ids done)
    (herror : (p.settled ids done).1 ≠ .error (.unknownSprite id))
    (hkept : (p.settled ids done).1 ≠ .ok false) :
    (p.settled ids done).1 = .ok true ∧
      ∃ before sprite behind script rest, p.FirstAt id before sprite behind ∧
        (p.settled ids done).2.1.sprites = before ++ { sprite with
          scripts := { script with blocks := e.apply script.blocks } :: rest } :: behind ∧
        (sprite.scripts = script :: rest ∧ (p.settled ids done).2.2 = ids ∨
          sprite.scripts = [] ∧ script = ⟨(IdSource.next ids).1, []⟩ ∧ rest = [] ∧
            (p.settled ids done).2.2 = (IdSource.next ids).2) := by
  cases h with
  | unknown => exact absurd rfl herror
  | kept => exact absurd rfl hkept
  | @changed before behind sprite script rest blocks hfirst hscripts hedit =>
    refine ⟨rfl, before, sprite, behind, script, rest, hfirst, ?_, .inl ⟨hscripts, rfl⟩⟩
    simp [settled, Edit.apply, hedit]
  | @created before behind sprite hfirst hscripts =>
    exact ⟨rfl, before, sprite, behind, _, [], hfirst, rfl, .inr ⟨hscripts, rfl, rfl, rfl⟩⟩

/-- **An edit that leaves the first script as it is alters no script.** -/
theorem extends_of_miss (h : Edits p id e ids done)
    (hmiss : ∀ forest ∈ p.firstForest? id, e forest = none) :
    (p.settled ids done).2.1.Extends p := by
  cases h with
  | unknown | kept => exact extends_refl p
  | @changed _ _ _ script _ _ hfirst hscripts hedit =>
    have hnone := hmiss script.blocks (by simp [hfirst.firstForest?, hscripts])
    exact absurd (hnone.symm.trans hedit) (by simp)
  | @created before behind sprite hfirst hscripts =>
    have hbefore := extends_refl ⟨before⟩
    have hbehind := extends_refl ⟨behind⟩
    unfold Extends at hbefore hbehind ⊢
    rw [hfirst.sprites]
    refine List.rel_append hbefore (.cons ⟨[⟨(IdSource.next ids).1, e.apply []⟩], ?_⟩ hbehind)
    simp [hscripts]

end Edits

/-! ## Edits are local -/

/-- **An edit changes one script at most, or leaves everything as it is.** It fails exactly if no
sprite has the id, and answers that nothing changes exactly if the first sprite with the id has a
script and the edit leaves the blocks of the first script as they are; the project and the source of
ids are then as before. Otherwise it answers that the project changes; then the first sprite with
the id has in its first script the blocks that the edit makes of those that were there, and
everything else is as before, but for a sprite without scripts, for which the script is new and has
an id that is drawn for it. So an addition inside of a block, an update and a removal alter no
script if there is no such block, or no such loop, in the first script. -/
theorem editFirstScript_local (p : Project) (id : String) (e : Edit) (ids : ι) :
    let (answer, p', ids') := p.settled ids (p.editFirstScript id e ids)
    (answer = .error (.unknownSprite id) ↔ ∀ s ∈ p.sprites, s.id ≠ id) ∧
    (answer = .ok false ↔ ∃ forest, p.firstForest? id = some forest ∧ e forest = none) ∧
    (answer ≠ .ok true → (p', ids') = (p, ids)) ∧
    (answer ≠ .error (.unknownSprite id) → answer ≠ .ok false →
      answer = .ok true ∧ ∃ before sprite behind script rest, p.FirstAt id before sprite behind ∧
        p'.sprites = before ++ { sprite with
          scripts := { script with blocks := e.apply script.blocks } :: rest } :: behind ∧
        (sprite.scripts = script :: rest ∧ ids' = ids ∨
          sprite.scripts = [] ∧ script = ⟨(IdSource.next ids).1, []⟩ ∧ rest = [] ∧
            ids' = (IdSource.next ids).2)) ∧
    (∀ parent b, (∀ forest ∈ p.firstForest? id, ∀ c ∈ forest.find? parent, c.kind.isLoop = false) →
      (p.settled ids (p.appendBlock id (some parent) b ids)).2.1.Extends p) ∧
    ∀ block, (∀ forest ∈ p.firstForest? id, forest.find? block = none) →
      (∀ patch, (p.settled ids (p.updateBlock id block patch ids)).2.1.Extends p) ∧
      (p.settled ids (p.removeBlock id block ids)).2.1.Extends p := by
  have hedits (e : Edit) : Edits p id e ids (p.editFirstScript id e ids) :=
    edits_editFirstScript p id e ids
  refine ⟨(hedits e).unknown_iff, (hedits e).kept_iff, (hedits e).same, (hedits e).changes, ?_, ?_⟩
  · intro parent b hmiss
    refine (hedits _).extends_of_miss fun forest hforest => ?_
    cases hfind : forest.find? parent with
    | none => simp [Edit.append_eq, hfind]
    | some c => simp [Edit.append_eq, hfind, hmiss forest hforest c hfind]
  · intro block hmiss
    have hnone (f : Block → Forest) (forest : Forest) (hforest : forest ∈ p.firstForest? id) :
        forest.replaceFirst? block f = none :=
      Forest.replaceFirst?_eq_none (hmiss forest hforest) f
    refine ⟨fun patch => (hedits _).extends_of_miss ?_, (hedits _).extends_of_miss ?_⟩
    · rw [Edit.update_eq]
      exact hnone _
    · rw [Edit.remove_eq]
      exact hnone _

/-- Of two sprites with one id, the first has no script and gets one, though the edit keeps all
blocks; a removal that finds no block, or no sprite, leaves everything as it is. -/
theorem editFirstScript_local_pair :
    let cat : Sprite := { Sprite.blank "a" "Cat" "#ff6b6b" 0 0 "" with scripts := [] }
    let p : Project :=
      ⟨[cat, .blank "a" "Dog" "#4ecdc4" 0 0 "b", .blank "c" "Cow" "#45b7d1" 0 0 "d"]⟩
    let ids : SequentialIds := ⟨"new", 0⟩
    let kept := p.settled ids (p.editFirstScript "a" .keep ids)
    let missed := p.settled ids (p.removeBlock "c" "x" ids)
    let refused := p.settled ids (p.removeBlock "e" "x" ids)
    (∃ (before behind : List Sprite) (sprite : Sprite) (script : Script) (rest : List Script),
      p.FirstAt "a" before sprite behind ∧ kept.2.1.sprites = before ++ { sprite with
        scripts := { script with blocks := Edit.keep.apply script.blocks } :: rest } :: behind ∧
      kept.2.2 = ⟨"new", 1⟩) ∧
    missed.2 = (p, ids) ∧ missed.2.1.Extends p ∧ refused.2 = (p, ids) := by
  intro cat p ids kept missed refused
  have hkept : kept.1 = .ok true := rfl
  have hmissed : missed.1 = .ok false := rfl
  have hrefused : refused.1 = .error (.unknownSprite "e") := rfl
  obtain ⟨-, -, -, hchanges, -⟩ := editFirstScript_local p "a" .keep ids
  obtain ⟨-, -, hsame, -, -, hextends⟩ := editFirstScript_local p "c" (.remove "x") ids
  obtain ⟨-, -, hnone, -⟩ := editFirstScript_local p "e" (.remove "x") ids
  obtain ⟨-, before, sprite, behind, script, rest, hfirst, hsprites, -⟩ :=
    hchanges (hkept ▸ nofun) (hkept ▸ nofun)
  refine ⟨⟨before, behind, sprite, script, rest, hfirst, hsprites, rfl⟩, hsame (hmissed ▸ nofun),
    (hextends "x" ?_).2, hnone (hrefused ▸ nofun)⟩
  rintro forest ⟨⟩
  rfl

end

end Project

end SpriteScript
