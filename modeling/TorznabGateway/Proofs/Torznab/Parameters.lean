import TorznabGateway.Proofs.Outcome
import TorznabGateway.Torznab.Request

/-!
# Which parameters make a query

A request makes a query if its function is known and every number in it is a numeral that fits:
no number is ignored, and nothing else can go wrong.

## Main definitions

* `TorznabRequest.Numeral`: a parameter that is blank, or a numeral up to a bound.
* `TorznabRequest.Readable`: a request that makes a query.

## Main statements

* `TorznabRequest.exists_toQuery_iff`: the readable requests make a query, and no others.
-/
namespace TorznabGateway

open Text

namespace TorznabRequest

/-! ## One parameter -/

/-- Whether a parameter is absent, blank, or a numeral up to a bound. -/
def Numeral (bound : Nat) (value : Option String) : Prop :=
  ∀ v, value.bind nonBlank? = some v → (Decimal.readUpTo? bound v.toList).isSome

theorem exists_readNumber_iff {parameter value : String} {bound : Nat} :
    (∃ n, readNumber parameter bound value = .ok n)
      ↔ (Decimal.readUpTo? bound value.toList).isSome := by
  unfold readNumber
  cases Decimal.readUpTo? bound value.toList <;> simp

theorem exists_readOptional_iff {parameter : String} {bound : Nat} {value : Option String} :
    (∃ n, readOptional parameter bound value = .ok n) ↔ Numeral bound value := by
  unfold readOptional Numeral
  cases value.bind nonBlank? with
  | none => simp
  | some v => simp [exists_ok_map_iff, exists_readNumber_iff]

theorem exists_readCategories_iff {value : Option String} :
    (∃ cs, readCategories value = .ok cs) ↔ ∀ v, value.bind nonBlank? = some v →
      ∀ part ∈ commaParts v, (Decimal.readUpTo? Decimal.max32 part.toList).isSome := by
  unfold readCategories
  cases value.bind nonBlank? with
  | none => simp
  | some v => simp [exists_ok_mapM_iff, exists_readNumber_iff]

theorem exists_readImdbId_iff {value : Option String} :
    (∃ id, readImdbId value = .ok id) ↔ ∀ v, value.bind nonBlank? = some v →
      (Decimal.readUpTo? Decimal.max64 (imdbDigits v).toList).isSome := by
  unfold readImdbId
  cases value.bind nonBlank? with
  | none => simp
  | some v => simp [exists_ok_map_iff, exists_readNumber_iff]

/-- The number of pages may not be zero. -/
theorem exists_readOptional_ne_zero_iff {parameter : String} {bound : Nat}
    {value : Option String} :
    (∃ n, readOptional parameter bound value = .ok n ∧ ¬n = some 0)
      ↔ ∀ v, value.bind nonBlank? = some v →
        ∃ n, Decimal.readUpTo? bound v.toList = some n ∧ n ≠ 0 := by
  unfold readOptional readNumber
  cases value.bind nonBlank? with
  | none => simp
  | some v => cases read : Decimal.readUpTo? bound v.toList <;> simp [read, Except.map]

/-! ## All parameters -/

/-- Whether a request names a function, and every number in it is a numeral that fits. -/
structure Readable (r : TorznabRequest) : Prop where
  function : ∃ name, r.function? = some name ∧ (SearchFunction.parse? name).isSome
  categories : ∀ v, r.cat.bind nonBlank? = some v →
    ∀ part ∈ commaParts v, (Decimal.readUpTo? Decimal.max32 part.toList).isSome
  limit : Numeral Decimal.max32 r.limit
  offset : Numeral Decimal.max32 r.offset
  pages : ∀ v, r.pages.bind nonBlank? = some v →
    ∃ n, Decimal.readUpTo? Decimal.max32 v.toList = some n ∧ n ≠ 0
  imdbid : ∀ v, r.imdbid.bind nonBlank? = some v →
    (Decimal.readUpTo? Decimal.max64 (imdbDigits v).toList).isSome
  tmdbid : Numeral Decimal.max64 r.tmdbid
  tvdbid : Numeral Decimal.max64 r.tvdbid
  minsize : Numeral Decimal.max64 r.minsize
  maxsize : Numeral Decimal.max64 r.maxsize
  maxage : Numeral Decimal.max32 r.maxage

/-- The readable requests make a query, and no others. -/
theorem exists_toQuery_iff {r : TorznabRequest} : (∃ q, r.toQuery = .ok q) ↔ r.Readable := by
  unfold toQuery
  cases named : r.function? with
  | none =>
    simp only [exists_ok_bind_iff, reduceCtorEq, false_and, exists_false, false_iff]
    intro readable
    simpa [named] using readable.function
  | some name =>
    cases known : SearchFunction.parse? name with
    | none =>
      simp only [known, exists_ok_bind_iff, Except.ok.injEq, exists_eq_left', reduceCtorEq,
        false_and, exists_false, false_iff]
      intro readable
      simpa [named, known] using readable.function
    | some f =>
      have function : ∃ name, r.function? = some name ∧ (SearchFunction.parse? name).isSome :=
        ⟨name, named, by rw [known]; rfl⟩
      simp only [known, exists_ok_bind_iff, exists_ok_guard_iff, Except.ok.injEq,
        exists_eq_left', exists_and_right, pure, Except.pure, exists_eq', and_true,
        exists_readOptional_ne_zero_iff, exists_readOptional_iff, exists_readCategories_iff,
        exists_readImdbId_iff, ← and_assoc]
      simp only [and_assoc]
      constructor
      · rintro ⟨categories, limit, offset, pages, imdbid, tmdbid, tvdbid, minsize, maxsize, maxage⟩
        exact { function, categories, limit, offset, pages, imdbid, tmdbid, tvdbid, minsize,
                maxsize, maxage }
      · intro h
        exact ⟨h.categories, h.limit, h.offset, h.pages, h.imdbid, h.tmdbid, h.tvdbid, h.minsize,
          h.maxsize, h.maxage⟩

end TorznabRequest

end TorznabGateway
