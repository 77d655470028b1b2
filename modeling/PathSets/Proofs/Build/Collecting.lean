import Mathlib.Data.List.Induction
import PathSets.Proofs.FirstGiven
import PathSets.Proofs.PathSet.Algebra
import PathSets.Session.Query

/-!
# Collecting distinct globs

Globs are equal as values if their sources are, whatever sets they stand in, and equal ones have one
fingerprint and hold of the same paths.  Of the globs of a list, collecting keeps the first of each
source, both where the globs met so far are looked up in a hash set and where they are the keys of a
dictionary.  So nothing is lost: a set of the kept globs behaves as one of all of them.
-/

namespace PathSets

namespace Glob

theorem source_injective : Function.Injective source := by
  intro left right same
  rw [Glob.mk.injEq]
  exact same

/-- What was kept so far is what was seen, both grow by the same globs, and what was kept stays the
first of what was given. -/
theorem firstGiven_distinctFrom {seen : Std.HashSet Glob} {given kept : List Glob}
    (globs : List Glob) (seen_iff : ∀ glob, seen.contains glob = true ↔ glob ∈ kept)
    (first : FirstGiven given kept) :
    FirstGiven (given ++ globs) (kept ++ distinctFrom seen globs) := by
  induction globs generalizing seen given kept with
  | nil => simpa only [distinctFrom, List.append_nil] using first
  | cons glob rest ih =>
      rw [distinctFrom, List.append_cons]
      by_cases again : seen.contains glob = true
      · rw [if_pos again]
        exact ih seen_iff (first.append_of_mem ((seen_iff glob).mp again))
      · have fresh : glob ∉ kept := fun member => again ((seen_iff glob).mpr member)
        rw [if_neg again, List.append_cons kept]
        refine ih (fun other => ?_) (first.append_of_not_mem fresh)
        rw [Std.HashSet.contains_insert, Bool.or_eq_true, seen_iff, beq_iff_eq, List.mem_append,
          List.mem_singleton, or_comm, eq_comm]

theorem firstGiven_distinct (globs : List Glob) : FirstGiven globs (distinct globs) :=
  firstGiven_distinctFrom globs (fun glob => by simp) .nil

theorem mem_distinct_iff {globs : List Glob} {glob : Glob} :
    glob ∈ distinct globs ↔ glob ∈ globs :=
  (firstGiven_distinct globs).mem_iff glob

theorem distinct_of_nodup {globs : List Glob} (nodup : globs.Nodup) : distinct globs = globs :=
  (firstGiven_distinct globs).unique (.self_of_nodup nodup)

/-- Globs that were given in front already change nothing. -/
theorem distinct_insert_of_subset {front again back : List Glob}
    (subset : ∀ glob ∈ again, glob ∈ front) :
    distinct (front ++ again ++ back) = distinct (front ++ back) :=
  (firstGiven_distinct _).unique ((firstGiven_distinct _).insert_of_subset subset)

theorem distinct_append_singleton (globs : List Glob) (last : Glob) :
    distinct (globs ++ [last]) =
      if last ∈ globs then distinct globs else distinct globs ++ [last] := by
  refine (firstGiven_distinct _).unique ?_
  by_cases again : last ∈ globs
  · rw [if_pos again]
    exact (firstGiven_distinct globs).append_of_mem (mem_distinct_iff.mpr again)
  · rw [if_neg again]
    exact (firstGiven_distinct globs).append_of_not_mem (mt mem_distinct_iff.mp again)

end Glob

/-! ## Globs as values -/

namespace Value

/-- The value of the set of one glob, with the tag of the set. -/
def ofGlob (leaf : Tag × Glob) : Value :=
  .pathSet (.single leaf.1 leaf.2)

theorem equal_ofGlob_iff {left right : Tag × Glob} :
    (ofGlob left).equal (ofGlob right) = true ↔ left.2.source = right.2.source := by
  simp only [ofGlob, equal, PathSet.equal, beq_iff_eq, Glob.source_injective.eq_iff]

theorem fingerprint_ofGlob (leaf : Tag × Glob) :
    (ofGlob leaf).fingerprint = .ok (hash leaf.2.source) := rfl

end Value

/-! ## Keys of a dictionary -/

theorem map_fst_setEntry (key value : Value) (entries : List (Value × Value)) :
    (setEntry key value entries).map Prod.fst =
      if (entries.map Prod.fst).any (·.alike key) then entries.map Prod.fst
      else entries.map Prod.fst ++ [key] := by
  induction entries with
  | nil => rfl
  | cons entry rest ih =>
      obtain ⟨other, held⟩ := entry
      cases found : other.alike key with
      | true => simp [setEntry, found]
      | false =>
          simp only [setEntry, found, List.map_cons, List.any_cons, Bool.false_or,
            Bool.false_eq_true, if_false, ih]
          split <;> rfl

/-- The first value of a glob in a list. -/
def firstOf? (leaves : List (Tag × Glob)) (glob : Glob) : Option Value :=
  (leaves.find? (·.2 = glob)).map Value.ofGlob

variable {leaves : List (Tag × Glob)} {last : Tag × Glob} {glob : Glob}

theorem exists_of_firstOf?_eq_some {value : Value} (first : firstOf? leaves glob = some value) :
    ∃ leaf ∈ leaves, leaf.2 = glob ∧ Value.ofGlob leaf = value := by
  obtain ⟨leaf, found, rfl⟩ := Option.map_eq_some_iff.mp first
  exact ⟨leaf, List.mem_of_find?_eq_some found, by simpa using List.find?_some found, rfl⟩

theorem firstOf?_isSome_iff :
    (firstOf? leaves glob).isSome = true ↔ glob ∈ leaves.map Prod.snd := by
  simp [firstOf?]

theorem firstOf?_append (front back : List (Tag × Glob)) (glob : Glob) :
    firstOf? (front ++ back) glob = (firstOf? front glob).or (firstOf? back glob) := by
  rw [firstOf?, List.find?_append, Option.map_or]
  rfl

theorem firstOf?_append_of_mem (member : glob ∈ leaves.map Prod.snd)
    (more : List (Tag × Glob)) : firstOf? (leaves ++ more) glob = firstOf? leaves glob := by
  rw [firstOf?_append, Option.or_of_isSome (firstOf?_isSome_iff.mpr member)]

theorem firstOf?_append_of_not_mem (fresh : last.2 ∉ leaves.map Prod.snd) :
    firstOf? (leaves ++ [last]) last.2 = some (Value.ofGlob last) := by
  have nothing : firstOf? leaves last.2 = none := by
    rw [← Option.not_isSome_iff_eq_none, firstOf?_isSome_iff]
    exact fresh
  rw [firstOf?_append, nothing, Option.none_or]
  simp [firstOf?]

theorem filterMap_firstOf?_append (more : List (Tag × Glob)) :
    (Glob.distinct (leaves.map Prod.snd)).filterMap (firstOf? (leaves ++ more)) =
      (Glob.distinct (leaves.map Prod.snd)).filterMap (firstOf? leaves) :=
  List.filterMap_congr fun _ kept => firstOf?_append_of_mem (Glob.mem_distinct_iff.mp kept) more

/-- A value counts as equal to a key that was kept exactly if its glob was met: what is one and the
same value has one tag, and so one glob. -/
theorem any_alike_iff
    (told : ∀ leaf ∈ leaves, leaf.1 = last.1 → leaf.2 = last.2) :
    (((Glob.distinct (leaves.map Prod.snd)).filterMap (firstOf? leaves)).any
        (·.alike (.ofGlob last))) = true ↔ last.2 ∈ leaves.map Prod.snd := by
  have alike_iff {leaf : Tag × Glob} (member : leaf ∈ leaves) :
      (Value.ofGlob leaf).alike (.ofGlob last) = true ↔ leaf.2 = last.2 := by
    rw [Value.alike, Bool.or_eq_true, Value.equal_ofGlob_iff, Glob.source_injective.eq_iff]
    refine or_iff_right_of_imp fun same => told leaf member ?_
    simpa [Value.ofGlob, Value.same, Value.tag, PathSet.tag] using same
  simp only [List.any_eq_true, List.mem_filterMap, Glob.mem_distinct_iff]
  constructor
  · rintro ⟨key, ⟨glob, -, found⟩, alike⟩
    obtain ⟨leaf, member, -, rfl⟩ := exists_of_firstOf?_eq_some found
    exact (alike_iff member).mp alike ▸ List.mem_map_of_mem member
  · intro met
    obtain ⟨key, found⟩ := Option.isSome_iff_exists.mp (firstOf?_isSome_iff.mpr met)
    obtain ⟨leaf, member, same, rfl⟩ := exists_of_firstOf?_eq_some found
    exact ⟨_, ⟨last.2, met, found⟩, (alike_iff member).mpr same⟩

/-- The keys of a dictionary are the first values of their globs.  What bears one tag is one value,
so it has one glob. -/
theorem map_fst_distinctEntries
    (told : ∀ left ∈ leaves, ∀ right ∈ leaves, left.1 = right.1 → left.2 = right.2)
    (held : Tag × Glob → Value) :
    (distinctEntries (leaves.map fun leaf => (Value.ofGlob leaf, held leaf))).map Prod.fst =
      (Glob.distinct (leaves.map Prod.snd)).filterMap (firstOf? leaves) := by
  induction leaves using List.reverseRecOn with
  | nil => rfl
  | append_singleton leaves last ih =>
      have before : ∀ leaf ∈ leaves, leaf ∈ leaves ++ [last] := fun leaf =>
        List.mem_append_left [last]
      have tells (leaf : Tag × Glob) (member : leaf ∈ leaves) : leaf.1 = last.1 → leaf.2 = last.2 :=
        told leaf (before leaf member) last (by simp)
      have keys := ih fun left inLeft right inRight =>
        told left (before left inLeft) right (before right inRight)
      rw [distinctEntries] at keys
      rw [distinctEntries, List.map_append, List.foldl_append, List.map_singleton, List.foldl_cons,
        List.foldl_nil, map_fst_setEntry, keys, List.map_append, List.map_singleton,
        Glob.distinct_append_singleton]
      by_cases met : last.2 ∈ leaves.map Prod.snd
      · rw [if_pos ((any_alike_iff tells).mpr met), if_pos met, filterMap_firstOf?_append]
      · rw [if_neg (mt (any_alike_iff tells).mp met), if_neg met, List.filterMap_append,
          filterMap_firstOf?_append, List.filterMap_cons, firstOf?_append_of_not_mem met,
          List.filterMap_nil]

section

variable {audience : Audience}

namespace Build

theorem globOf_ofGlob (leaf : Tag × Glob) :
    globOf (.ofGlob leaf) = (pure leaf.2 : Build audience Glob) := rfl

theorem visitList_globOf (index : Nat) (leaves : List (Tag × Glob)) :
    visitList (fun _ => pure ()) (fun _ item => globOf item) index (leaves.map Value.ofGlob) =
      (pure (leaves.map Prod.snd) : Build audience (List Glob)) := by
  induction leaves generalizing index with
  | nil => rfl
  | cons leaf rest ih => simp only [List.map_cons, visitList, globOf_ofGlob, ih, pure_bind]

end Build

theorem Query.find_distinct {names : Names} {name : String} {tag : Tag}
    {leaves : List (Tag × Glob)} (named : names name = some (.list tag (leaves.map Value.ofGlob))) :
    (Query.distinct (.named name)).find names =
      (pure (.globs (Glob.distinct (leaves.map Prod.snd))) : Build audience Finding) := by
  simp only [Query.find, Expression.evaluate, named, pure_bind, Build.visit, Value.members,
    Build.visitList_globOf]

end

/-! ## What is kept -/

/-- Two globs behave alike if their sources are the same. -/
theorem PathSet.single_behavesAs_of_source_eq {left right : Tag × Glob}
    (same : left.2.source = right.2.source) :
    (PathSet.single left.1 left.2).BehavesAs (.single right.1 right.2) := by
  intro subject
  rw [PathSet.test, PathSet.test, Glob.source_injective same]

namespace Glob

theorem pairwise_not_equal_distinct (globs : List Glob) :
    (distinct globs).Pairwise fun left right => ∀ first second,
      (Value.ofGlob (first, left)).equal (.ofGlob (second, right)) = false := by
  refine (firstGiven_distinct globs).nodup.imp fun {left right} different first second => ?_
  rw [Bool.eq_false_iff, Ne, Value.equal_ofGlob_iff]
  exact mt (fun same => source_injective same) different

theorem anyOf_distinct_behavesAs (globs : List Glob) (first second : Tag) :
    (PathSet.anyOf first (distinct globs)).BehavesAs (.anyOf second globs) :=
  PathSet.anyOf_behavesAs_of_same_members (fun _ => mem_distinct_iff) first second

theorem union_distinct_behavesAs {leaves kept : List (Tag × Glob)}
    (each : kept.map Prod.snd = distinct (leaves.map Prod.snd)) (first second : Tag) :
    (PathSet.union first (kept.map fun leaf => .single leaf.1 leaf.2)).BehavesAs
      (.union second (leaves.map fun leaf => .single leaf.1 leaf.2)) := by
  intro subject
  have few := PathSet.anyOf_behavesAs_union_single first first kept subject
  have all := PathSet.anyOf_behavesAs_union_single second second leaves subject
  rw [← few, ← all, each]
  exact anyOf_distinct_behavesAs _ first second subject

/-- Of every list of globs, however often a source is repeated and whatever sets the globs stand in,
collecting keeps one glob for each source, in the order in which the sources are first given.  As
keys of a dictionary, the first of the values of each source are kept.  Globs are equal exactly if
their sources are, equal ones have one fingerprint and behave alike, and no two kept ones are equal.
Collecting again changes nothing, nor does giving a glob again somewhere behind its first place.  A
set of the kept globs, or a union of sets of them, behaves as that of all globs. -/
theorem distinct_keeps_first_of_each_source (audience : Audience) (leaves : List (Tag × Glob)) :
    let globs := leaves.map Prod.snd
    let kept := distinct globs
    (∀ (names : Names) name tag, names name = some (.list tag (leaves.map Value.ofGlob)) →
        (Query.distinct (.named name)).find names = (pure (.globs kept) : Build audience _)) ∧
      ((∀ left ∈ leaves, ∀ right ∈ leaves, left.1 = right.1 → left.2 = right.2) →
        ∀ held : Tag × Glob → Value,
          (distinctEntries (leaves.map fun leaf => (Value.ofGlob leaf, held leaf))).map Prod.fst =
            kept.filterMap (firstOf? leaves)) ∧
      (∀ left right : Tag × Glob,
        ((Value.ofGlob left).equal (.ofGlob right) = true ↔ left.2.source = right.2.source) ∧
          (left.2.source = right.2.source →
            (Value.ofGlob left).fingerprint = (Value.ofGlob right).fingerprint ∧
              (PathSet.single left.1 left.2).BehavesAs (.single right.1 right.2))) ∧
      FirstGiven (globs.map source) (kept.map source) ∧
      (kept.Pairwise fun left right => ∀ first second,
        (Value.ofGlob (first, left)).equal (.ofGlob (second, right)) = false) ∧
      distinct kept = kept ∧
      (∀ front again back, globs = front ++ back → (∀ glob ∈ again, glob ∈ front) →
        distinct (front ++ again ++ back) = kept) ∧
      (∀ first second : Tag, (PathSet.anyOf first kept).BehavesAs (.anyOf second globs)) ∧
      ∀ (others : List (Tag × Glob)) (first second : Tag), others.map Prod.snd = kept →
        (PathSet.union first (others.map fun leaf => .single leaf.1 leaf.2)).BehavesAs
          (.union second (leaves.map fun leaf => .single leaf.1 leaf.2)) := by
  intro globs kept
  have first := firstGiven_distinct globs
  refine ⟨fun names name tag named => Query.find_distinct named, map_fst_distinctEntries,
    fun left right => ⟨Value.equal_ofGlob_iff, fun same => ⟨?_, ?_⟩⟩,
    first.map_of_injective source_injective, pairwise_not_equal_distinct globs,
    distinct_of_nodup first.nodup, fun front again back split subset => ?_,
    anyOf_distinct_behavesAs globs, fun others first second each =>
      union_distinct_behavesAs each first second⟩
  · rw [Value.fingerprint_ofGlob, Value.fingerprint_ofGlob, same]
  · exact PathSet.single_behavesAs_of_source_eq same
  · rw [distinct_insert_of_subset subset, ← split]

/-- Of two sets of one source, with another in between, the first is kept. -/
theorem distinct_keeps_first_of_repeated_source :
    let leaves : List (Tag × Glob) := [(1, ⟨"*"⟩), (2, ⟨"?"⟩), (3, ⟨"*"⟩)]
    let names : Names := fun _ => some (.list 4 (leaves.map Value.ofGlob))
    (∀ left ∈ leaves, ∀ right ∈ leaves, left.1 = right.1 → left.2 = right.2) ∧
      (Query.distinct (.named "globs")).find names =
        (pure (.globs [⟨"*"⟩, ⟨"?"⟩]) : Build .scribe _) ∧
      (distinctEntries (leaves.map fun leaf => (Value.ofGlob leaf, .datum 5 .none))).map Prod.fst =
        [.ofGlob (1, ⟨"*"⟩), .ofGlob (2, ⟨"?"⟩)] ∧
      FirstGiven ["*", "?", "*"] ["*", "?"] ∧
      (PathSet.anyOf 6 [⟨"*"⟩, ⟨"?"⟩]).BehavesAs (.anyOf (7 : Tag) [⟨"*"⟩, ⟨"?"⟩, ⟨"*"⟩]) := by
  intro leaves names
  have told : ∀ left ∈ leaves, ∀ right ∈ leaves, left.1 = right.1 → left.2 = right.2 := by decide
  have few : distinct [⟨"*"⟩, ⟨"?"⟩] = [⟨"*"⟩, ⟨"?"⟩] := distinct_of_nodup (by decide)
  have kept : distinct (leaves.map Prod.snd) = [⟨"*"⟩, ⟨"?"⟩] :=
    (distinct_append_singleton [⟨"*"⟩, ⟨"?"⟩] ⟨"*"⟩).trans (by rw [if_pos (by decide), few])
  obtain ⟨finds, keys, -, first, -, -, -, behaves, -⟩ :=
    distinct_keeps_first_of_each_source .scribe leaves
  rw [kept] at finds keys first behaves
  exact ⟨told, finds names "globs" 4 rfl, keys told _, first, behaves 6 7⟩

end Glob
end PathSets
