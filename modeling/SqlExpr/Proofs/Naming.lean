import Mathlib.Data.List.Nodup
import SqlExpr.Proofs.Outcome.Service
import SqlExpr.Proofs.Taxonomy

/-!
This module contains kinds with names of their own. Kinds are told apart by their names alone, so a
new kind with the name of a built-in one is taken for it. If neither a kind nor an ancestor of it
does this (`Kind.UniquelyNamed`), then the standard compiler treats it as its nearest built-in
ancestor (`Kind.UniquelyNamed.exists_standard`).
-/

namespace SqlExpr.Kind

deriving instance DecidableEq for Kind

/--
Whether no ancestor of a kind, itself included, has the name of a built-in kind without being this
kind.
-/
def UniquelyNamed (kind : Kind) : Prop :=
  ∀ ancestor ∈ kind.lineage, ∀ standard ∈ Standard.all,
    ancestor.name = standard.name → ancestor = standard

theorem uniquelyNamed_special {name : String} {parent : Kind} {declared : Option Precedence}
    (hname : name ∉ Standard.all.map Kind.name) (hparent : parent.UniquelyNamed) :
    (special name parent declared).UniquelyNamed := by
  intro ancestor hancestor standard hstandard heq
  rw [lineage_special, List.mem_cons] at hancestor
  cases hancestor with
  | inl hself =>
    rw [hself] at heq
    exact absurd (List.mem_map.2 ⟨standard, hstandard, heq.symm⟩) hname
  | inr hancestor => exact hparent ancestor hancestor standard hstandard heq

/--
In a taxonomy that has the built-in kinds, every kind is uniquely named.
-/
theorem Taxonomy.uniquelyNamed {t : Taxonomy} (h : ∀ standard ∈ Standard.all, standard ∈ t.kinds)
    {kind : Kind} (hkind : kind ∈ t.kinds) : kind.UniquelyNamed := by
  intro ancestor hancestor standard hstandard heq
  exact t.injOn_name (mem_of_mem_lineage hkind hancestor) (h standard hstandard) heq

namespace Standard

theorem nodup_names : (all.map Kind.name).Nodup := by decide

theorem lineage_subset : ∀ kind ∈ all, kind.lineage ⊆ all := by decide

def taxonomy : Taxonomy := .ofList all nodup_names lineage_subset

theorem null_mem_all : null ∈ all := by simp [all]

theorem equal_mem_all : equal ∈ all := by simp [all]

theorem notEqual_mem_all : notEqual ∈ all := by simp [all]

end Standard

/--
The built-in kinds have different names, and their ancestors are built-in kinds.
-/
theorem uniquelyNamed_of_mem_all {kind : Kind} (h : kind ∈ Standard.all) : kind.UniquelyNamed := by
  apply Standard.taxonomy.uniquelyNamed _ h
  intro standard hstandard
  exact Taxonomy.mem_ofList.2 hstandard

section

variable {name : String} (hname : name ∉ Standard.all.map Kind.name)

include hname

theorem lookup_registered_of_notMem : Entries.lookup name Service.registered = none := by
  have hsubset : Service.registered.map Prod.fst ⊆ Standard.all.map Kind.name := by decide
  cases hlookup : Entries.lookup name Service.registered with
  | none => rfl
  | some service =>
    have hmem : name ∈ Service.registered.map Prod.fst :=
      List.mem_map_of_mem (Entries.mem_of_lookup hlookup)
    exact absurd (hsubset hmem) hname

theorem beq_standard_of_notMem {kind other : Kind} (hkind : kind.name = name)
    (hother : other ∈ Standard.all) : (kind == other) = false := by
  rw [Bool.eq_false_iff, Ne, beq_iff_name_eq, hkind]
  intro heq
  exact hname (List.mem_map.2 ⟨other, hother, heq.symm⟩)

end

theorem UniquelyNamed.mem_all {kind : Kind} (h : kind.UniquelyNamed)
    (hname : kind.name ∈ Standard.all.map Kind.name) : kind ∈ Standard.all := by
  obtain ⟨standard, hstandard, heq⟩ := List.mem_map.1 hname
  rw [h kind kind.mem_lineage_self standard hstandard heq.symm]
  exact hstandard

/--
What the standard compiler asks of a kind has the answers of its nearest built-in ancestor, if it
has one.
-/
theorem UniquelyNamed.exists_standard {kind : Kind} (h : kind.UniquelyNamed) :
    (∃ standard ∈ Standard.all, kind.service? = standard.service? ∧
        ∀ other ∈ Standard.all, kind.isA other = standard.isA other) ∨
      kind.service? = none ∧ ∀ other ∈ Standard.all, kind.isA other = false := by
  induction kind with
  | root name declared =>
    by_cases hname : name ∈ Standard.all.map Kind.name
    . exact .inl ⟨_, h.mem_all hname, rfl, fun _ _ => rfl⟩
    right
    refine ⟨by simpa [service?, Kind.name] using lookup_registered_of_notMem hname, ?_⟩
    intro other hother
    simpa [isA] using beq_standard_of_notMem hname rfl hother
  | special name parent declared ih =>
    by_cases hname : name ∈ Standard.all.map Kind.name
    . exact .inl ⟨_, h.mem_all hname, rfl, fun _ _ => rfl⟩
    -- A name of its own is passed over in the lineage, so the answers are those of the parent.
    have hservice : (special name parent declared).service? = parent.service? := by
      unfold service?
      rw [lineage_special, List.findSome?_cons]
      simp only [lookup_registered_of_notMem hname, Kind.name]
    have hisA (other : Kind) (hother : other ∈ Standard.all) :
        (special name parent declared).isA other = parent.isA other := by
      unfold isA
      rw [lineage_special, List.any_cons, beq_standard_of_notMem hname rfl hother, Bool.false_or]
    have hparent : parent.UniquelyNamed := fun ancestor hancestor =>
      h ancestor (List.mem_cons_of_mem _ hancestor)
    rw [hservice]
    rcases ih hparent with ⟨standard, hstandard, hsame, hothers⟩ | ⟨hnone, hothers⟩
    . refine .inl ⟨standard, hstandard, hsame, ?_⟩
      intro other hother
      rw [hisA other hother, hothers other hother]
    . refine .inr ⟨hnone, ?_⟩
      intro other hother
      rw [hisA other hother, hothers other hother]

/-! Kinds of null and of comparisons for equality. -/

/--
Whether a kind is one of the comparisons that null is taken out of.
-/
def testsEquality (kind : Kind) : Bool :=
  kind.isA Standard.equal || kind.isA Standard.notEqual

namespace UniquelyNamed

variable {kind : Kind} (h : kind.UniquelyNamed)

include h

theorem service?_of_isA_null (hnull : kind.isA Standard.null = true) :
    kind.service? = some .null := by
  have hall : ∀ standard ∈ Standard.all, standard.isA Standard.null = true →
      standard.service? = some .null := by decide
  rcases h.exists_standard with ⟨standard, hstandard, hsame, hothers⟩ | ⟨_, hothers⟩
  . rw [hothers _ Standard.null_mem_all] at hnull
    rw [hsame, hall standard hstandard hnull]
  . rw [hothers _ Standard.null_mem_all] at hnull
    cases hnull

theorem service?_of_testsEquality (hkind : kind.testsEquality = true) :
    kind.service? = some .equality := by
  have hall : ∀ standard ∈ Standard.all, standard.testsEquality = true →
      standard.service? = some .equality := by decide
  unfold testsEquality at hkind
  rcases h.exists_standard with ⟨standard, hstandard, hsame, hothers⟩ | ⟨_, hothers⟩
  . rw [hothers _ Standard.equal_mem_all, hothers _ Standard.notEqual_mem_all] at hkind
    rw [hsame, hall standard hstandard hkind]
  . rw [hothers _ Standard.equal_mem_all, hothers _ Standard.notEqual_mem_all] at hkind
    cases hkind

theorem isA_null_of_testsEquality (hkind : kind.testsEquality = true) :
    kind.isA Standard.null = false := by
  rw [Bool.eq_false_iff]
  intro hnull
  have hservice := h.service?_of_isA_null hnull
  rw [h.service?_of_testsEquality hkind] at hservice
  cases hservice

end UniquelyNamed

end SqlExpr.Kind
