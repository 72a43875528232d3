/-
  New sprites.

  * `seriesName_injective`: the names in the series of a base are distinct, so that of one more of
    them than are used one is not; `freshName_spec`: **the fresh name is the first that is not**;
  * `Tries` is a search through the series without any bound, and `exists_tries`: **it ends, and
    only at the fresh name**;
  * `choose_mem`: what is chosen is an item of the list; `Project.pickColor_spec`: **the colour of a
    new sprite is the first that is not used, if there is one**;
  * `Project.addSprite_last`: **a new sprite comes last, with a name of its own**, and names stay
    distinct however many sprites are added.
-/
import Mathlib.Data.List.Nodup
import Mathlib.Data.List.Perm.Subperm
import Std.Data.String.ToNat
import SpriteScript.Project.Edit

namespace SpriteScript

/-! ## Fresh names -/

theorem seriesName_injective (base : String) : Function.Injective (seriesName base) := by
  have hne (n : Nat) : base ≠ base ++ toString (n + 1) := by
    intro h
    have hempty : "" = Nat.repr (n + 1) :=
      (String.append_right_inj base).mp (String.append_empty.trans h)
    exact Nat.repr_ne_empty hempty.symm
  intro m n h
  match m, n with
  | 0, 0 => rfl
  | 0, n + 1 => exact absurd h (hne n)
  | m + 1, 0 => exact absurd h.symm (hne m)
  | m + 1, n + 1 => exact Nat.repr_injective ((String.append_right_inj base).mp h)

/-- **Of one name more than are used, one is not used.** -/
theorem exists_seriesName_notMem (base : String) (used : List String) :
    ∃ k ≤ used.length, seriesName base k ∉ used := by
  by_contra hall
  push Not at hall
  have hnodup : ((List.range (used.length + 1)).map (seriesName base)).Nodup :=
    List.nodup_range.map (seriesName_injective base)
  have hsub : (List.range (used.length + 1)).map (seriesName base) ⊆ used := by
    intro name hname
    obtain ⟨k, hk, rfl⟩ := List.mem_map.mp hname
    exact hall k (Nat.le_of_lt_succ (List.mem_range.mp hk))
  have hlength := (hnodup.subperm hsub).length_le
  rw [List.length_map, List.length_range] at hlength
  omega

/-- **The fresh name is the first of the series that is not used.** -/
theorem freshName_spec (base : String) (used : List String) : ∃ k ≤ used.length,
    freshName base used = seriesName base k ∧ seriesName base k ∉ used ∧
      ∀ j < k, seriesName base j ∈ used := by
  obtain ⟨n, hn, hfree⟩ := exists_seriesName_notMem base used
  rw [freshName, List.find?_map]
  cases hfirst : (List.range (used.length + 1)).find?
      ((fun name => !used.contains name) ∘ seriesName base) with
  | none =>
    have hused := List.find?_eq_none.mp hfirst n (List.mem_range.mpr (Nat.lt_succ_of_le hn))
    simp [hfree] at hused
  | some k =>
    obtain ⟨hk, hmem, hleast⟩ := List.find?_range_eq_some.mp hfirst
    exact ⟨k, Nat.le_of_lt_succ (List.mem_range.mp hmem), rfl, by simpa using hk,
      by simpa using hleast⟩

/-- The search for a name without any bound: while the name is used, the base with `counter` behind
it is tried in its place. `Tries base used name counter found last` is a run from `name` and
`counter` that ends, at `found` and `last`. -/
inductive Tries (base : String) (used : List String) : String → Nat → String → Nat → Prop where
  | free {name : String} {counter : Nat} : name ∉ used → Tries base used name counter name counter
  | taken {name found : String} {counter last : Nat} : name ∈ used →
      Tries base used (base ++ toString counter) (counter + 1) found last →
      Tries base used name counter found last

theorem Tries.unique {base : String} {used : List String} {name found found' : String}
    {counter last last' : Nat} (h : Tries base used name counter found last)
    (h' : Tries base used name counter found' last') : found' = found ∧ last' = last := by
  induction h with
  | free hfree =>
    cases h' with
    | free => exact ⟨rfl, rfl⟩
    | taken hused => exact absurd hused hfree
  | taken hused _ ih =>
    cases h' with
    | free hfree => exact absurd hused hfree
    | taken _ h' => exact ih h'

/-- From any name of the series on, the first one that is not used is found. -/
theorem tries_seriesName {base : String} {used : List String} {m : Nat}
    (hfree : seriesName base m ∉ used) (hused : ∀ j < m, seriesName base j ∈ used) {n left : Nat}
    (h : n + left = m) :
    Tries base used (seriesName base n) (n + 1) (seriesName base m) (m + 1) := by
  -- On the number of names that are left. The next one is `seriesName base (n + 1)` by definition.
  induction left generalizing n with
  | zero =>
    obtain rfl : n = m := h
    exact .free hfree
  | succ left ih => exact .taken (hused n (by omega)) (ih (n := n + 1) (by omega))

/-- **The search for a name ends, and only at the fresh name**: at most one name more is tried than
are used. The counter is one at the first name, so it is the number of names that are tried. -/
theorem exists_tries (base : String) (used : List String) : ∃ tried ≤ used.length + 1,
    ∀ found last, Tries base used base 1 found last ↔
      found = freshName base used ∧ last = tried := by
  obtain ⟨k, hk, hname, hfree, hused⟩ := freshName_spec base used
  have hrun : Tries base used base 1 (freshName base used) (k + 1) :=
    hname ▸ tries_seriesName hfree hused (Nat.zero_add k)
  refine ⟨k + 1, Nat.succ_le_succ hk, fun found last => ⟨hrun.unique, ?_⟩⟩
  rintro ⟨rfl, rfl⟩
  exact hrun

theorem freshName_notMem (base : String) (used : List String) : freshName base used ∉ used := by
  obtain ⟨k, -, hname, hfree, -⟩ := freshName_spec base used
  rwa [hname]

/-! ## Random choices -/

section
variable {ρ : Type} [RandomSource ρ]

theorem halfWord_lt (r : ρ) : (halfWord r).1 < 0x100000000 := by
  have hword := (RandomSource.word r).1.toNat_lt
  rw [halfWord]
  dsimp only
  omega

theorem drawIndex_lt {n : Nat} (hn : 0 < n) (draws : Nat) (r : ρ) :
    (drawIndex n draws r).1 < n := by
  induction draws generalizing r with
  | zero => exact hn
  | succ draws ih =>
    rw [drawIndex]
    dsimp only
    split
    · have hv := halfWord_lt r
      exact Nat.div_lt_of_lt_mul (Nat.mul_lt_mul_of_pos_right hv hn)
    · exact ih _

/-- **What is chosen is an item of the list.** -/
theorem choose_mem {α : Type} {items : List α} (hne : items ≠ []) (fallback : α) (r : ρ) :
    (choose items fallback r).1 ∈ items := by
  have hlt := drawIndex_lt (List.length_pos_iff.mpr hne) maxDraws r
  rw [choose, chooseIndex]
  dsimp only
  rw [List.getD_eq_getElem?_getD, List.getElem?_eq_getElem hlt]
  exact List.getElem_mem hlt

namespace Project

/-- **The colour of a new sprite is the first of the palette that is not used**, and some colour of
the palette if all are used. -/
theorem pickColor_spec (p : Project) (random : ρ) :
    (∃ before behind, palette = before ++ (p.pickColor random).1 :: behind ∧
      (p.pickColor random).1 ∉ p.sprites.map (·.color) ∧
      ∀ color ∈ before, color ∈ p.sprites.map (·.color)) ∨
    (∀ color ∈ palette, color ∈ p.sprites.map (·.color)) ∧ (p.pickColor random).1 ∈ palette := by
  rw [pickColor]
  split
  · next color hfirst =>
    obtain ⟨hfree, before, behind, hpalette, hbefore⟩ := List.find?_eq_some_iff_append.mp hfirst
    exact .inl ⟨before, behind, hpalette, by simpa using hfree, by simpa using hbefore⟩
  · next hnone =>
    exact .inr ⟨by simpa using hnone, choose_mem (by decide) _ _⟩

variable {ι : Type} [IdSource ι]

/-- A project with one more sprite for each source of ids, given with a random source. -/
def addSprites (p : Project) (additions : List (ι × ρ)) : Project :=
  additions.foldl (fun p sources => (p.addSprite sources.1 sources.2).2.1) p

/-- What comes of `addSprite`, whichever place the sprite gets. -/
theorem exists_addSprite_eq (p : Project) (ids : ι) (random : ρ) :
    let base := (choose spriteNames "Sprite" (p.pickColor random).2).1
    let name := freshName base (p.sprites.map (·.name))
    ∃ x y random', p.addSprite ids random =
      let (sprite, ids') := newSprite name (p.pickColor random).1 x y ids
      (sprite.id, ⟨p.sprites ++ [sprite]⟩, ids', random') := by
  intro base name
  simp only [addSprite]
  exact ⟨_, _, _, rfl⟩

theorem names_addSprite (p : Project) (ids : ι) (random : ρ) :
    let names := p.sprites.map (·.name)
    (p.addSprite ids random).2.1.sprites.map (·.name) =
      names ++ [freshName (choose spriteNames "Sprite" (p.pickColor random).2).1 names] := by
  obtain ⟨x, y, random', heq⟩ := p.exists_addSprite_eq ids random
  rw [heq]
  exact List.map_append

/-- Names stay distinct however many sprites are added. -/
theorem nodup_names_addSprites {p : Project} (h : (p.sprites.map (·.name)).Nodup)
    (additions : List (ι × ρ)) : ((p.addSprites additions).sprites.map (·.name)).Nodup := by
  unfold addSprites
  refine List.foldlRecOn additions _
    (motive := fun p : Project => (p.sprites.map (·.name)).Nodup) h ?_
  intro p h sources _
  rw [names_addSprite, List.nodup_append]
  refine ⟨h, List.nodup_singleton _, ?_⟩
  rintro name hname _ hnew rfl
  rw [List.mem_singleton.mp hnew] at hname
  exact freshName_notMem _ _ hname

/-- **A new sprite comes last, with a name of its own.** The search for it ends only there, after at
most one name more than there are sprites. No other sprite has it; it is the base that was
drawn, or, if that is used, the base with the least positive number behind it that is not used. The
colour is the first of the palette that is not used, and some colour of the palette if all are used.
The sprite has one empty script; its id is drawn first and then that of the script, and no others.
Names that are distinct stay so however many sprites are added. -/
theorem addSprite_last (p : Project) (ids : ι) (random : ρ) :
    let names := p.sprites.map (·.name)
    let colors := p.sprites.map (·.color)
    let base := (choose spriteNames "Sprite" (p.pickColor random).2).1
    let (id, p', ids', _) := p.addSprite ids random
    (∃ sprite tried, p'.sprites = p.sprites ++ [sprite] ∧ base ∈ spriteNames ∧
      (∀ found last, Tries base names base 1 found last ↔ found = sprite.name ∧ last = tried) ∧
      tried ≤ p.sprites.length + 1 ∧
      sprite.name ∉ names ∧ (base ∉ names → sprite.name = base) ∧
      (base ∈ names → ∃ n, 0 < n ∧ sprite.name = base ++ toString n ∧
        ∀ m, 0 < m → m < n → base ++ toString m ∈ names) ∧
      ((∃ before behind, palette = before ++ sprite.color :: behind ∧ sprite.color ∉ colors ∧
          ∀ color ∈ before, color ∈ colors) ∨
        (∀ color ∈ palette, color ∈ colors) ∧ sprite.color ∈ palette) ∧
      sprite.id = (IdSource.next ids).1 ∧ id = sprite.id ∧
      sprite.scripts = [⟨(IdSource.next (IdSource.next ids).2).1, []⟩] ∧
      ids' = (IdSource.next (IdSource.next ids).2).2) ∧
    (names.Nodup → ∀ additions : List (ι × ρ),
      ((p.addSprites additions).sprites.map (·.name)).Nodup) := by
  intro names colors base
  obtain ⟨x, y, random', heq⟩ := p.exists_addSprite_eq ids random
  rw [heq]
  obtain ⟨tried, htried, hloop⟩ := exists_tries base names
  obtain ⟨k, -, hname, hfree, hused⟩ := freshName_spec base names
  refine ⟨⟨_, tried, rfl, choose_mem (by decide) _ _, hloop, by simpa [names] using htried,
    freshName_notMem base names, ?_, ?_, pickColor_spec p random, rfl, rfl, rfl, rfl⟩,
    nodup_names_addSprites⟩
  · intro hbase
    cases k with
    | zero => exact hname
    | succ k => exact absurd (hused 0 (Nat.succ_pos k)) hbase
  · intro hbase
    cases k with
    | zero => exact absurd hbase hfree
    | succ k =>
      refine ⟨k + 1, Nat.succ_pos k, hname, ?_⟩
      intro m hm hlt
      obtain ⟨m, rfl⟩ := Nat.exists_eq_succ_of_ne_zero (Nat.pos_iff_ne_zero.mp hm)
      exact hused (m + 1) hlt

/-- Of two sprites, one has the name that is drawn and one the first that comes behind it. -/
theorem addSprite_last_star :
    let p : Project := ⟨[.blank "a" "Star" "#ff6b6b" 0 0 "b", .blank "c" "Star1" "#45b7d1" 0 0 "d"]⟩
    let random : SplitMix := ⟨7⟩
    let ids : SequentialIds := ⟨"new", 4⟩
    let base := (choose spriteNames "Sprite" (p.pickColor random).2).1
    base = "Star" ∧ base ∈ p.sprites.map (·.name) ∧ (p.sprites.map (·.name)).Nodup ∧
      (∃ sprite n, (p.addSprite ids random).2.1.sprites = p.sprites ++ [sprite] ∧ 0 < n ∧
        sprite.name = base ++ toString n ∧ ∀ m, 0 < m → m < n →
          base ++ toString m ∈ p.sprites.map (·.name)) ∧
      ((p.addSprites [(ids, random), (ids, random)]).sprites.map (·.name)).Nodup := by
  intro p random ids base
  have hbase : base = "Star" := by decide
  have hused : base ∈ p.sprites.map (·.name) := by decide
  have hnames : (p.sprites.map (·.name)).Nodup := by decide
  obtain ⟨⟨sprite, -, hlast, -, -, -, -, -, hnumber, -⟩, hmore⟩ := addSprite_last p ids random
  obtain ⟨n, hn, hname, hleast⟩ := hnumber hused
  exact ⟨hbase, hused, hnames, ⟨sprite, n, hlast, hn, hname, hleast⟩, hmore hnames _⟩

end Project

end

end SpriteScript
