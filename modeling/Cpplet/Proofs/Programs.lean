import Cpplet.Grammar.Program
import Cpplet.Proofs.Statements

/-!
# Programs are read as they are written

A program is read piece by piece: what stands before the entry point, the entry point, and the
declarations behind it. The pieces before the entry point are then sorted by what they are, and
the parts of a header name are joined.
-/

namespace Cpplet.Grammar

open Cpplet.Parser

/-- Joining parts from the left puts a point between any two of them. -/
theorem joinParts_eq (first : Token) (others : List Token) :
    joinParts first others =
      ⟨.name,
        some (.name (".".intercalate ((first :: others).map fun part => part.name?.getD ""))),
        first.location⟩ := by
  have joined : ∀ (text : String) (others : List Token),
      others.foldl (fun header part => header ++ "." ++ partText part) text =
        ".".intercalate (text :: others.map fun part => part.name?.getD "") := by
    intro text others
    induction others generalizing text with
    | nil => exact String.intercalate_singleton.symm
    | cons part others ih =>
      rw [List.foldl_cons, ih, List.map_cons, String.intercalate_cons_append,
        String.intercalate_cons_cons]
      rfl
  unfold joinParts
  rw [joined]
  rfl

/-- The name of a header is read. -/
theorem reads_headerName : Reads headerName HeaderWritten := by
  have others : Reads nextPart (Language.Behind (.mark .dot) (Language.one .name)) :=
    reads_behind .dot reads_name
  refine reads_name.step ?_
  rintro _ first ⟨rfl, kind⟩
  refine (reads_manyBehind others).step fun behind others tail => ?_
  rw [joinParts_eq]
  exact reads_done (.mk kind tail)

/-- What may stand before the entry point. -/
inductive OpeningWritten : Language Opening where
  | uses {word second space semicolon : Token} (first : word.kind = .keyword .usingWord)
      (next : second.kind = .keyword .namespaceWord) (named : space.kind = .name)
      (ends : semicolon.kind = .mark .semicolon) :
      OpeningWritten [word, second, space, semicolon] (.uses space)
  | includes {hash word left right header : Token} {tokens : List Token}
      (first : hash.kind = .mark .hash) (next : word.kind = .keyword .includeWord)
      (opens : left.kind = .mark .less) (named : HeaderWritten tokens header)
      (closes : right.kind = .mark .greater) :
      OpeningWritten (hash :: word :: left :: (tokens ++ [right])) (.includes header)
  | declares {tokens : List Token} {steps : List Declaration}
      (declared : DeclarationsWritten tokens steps) : OpeningWritten tokens (.declares steps)

/-- Something that stands before the entry point is never without tokens. -/
theorem opening_ne_nil (tokens : List Token) (opening : Opening)
    (member : OpeningWritten tokens opening) : tokens ≠ [] := by
  cases member with
  | uses first next named ends => exact List.cons_ne_nil _ _
  | includes first next opens named closes => exact List.cons_ne_nil _ _
  | declares declared => exact declarations_ne_nil declared

/-- Sorting what stands before the entry point keeps the order of each sort. -/
theorem front_of_star {tokens : List Token} {openings : List Opening}
    (star : Language.Star OpeningWritten tokens openings) :
    FrontWritten tokens (openings.filterMap Opening.header?) (openings.filterMap Opening.space?)
      (openings.flatMap Opening.steps) := by
  induction star with
  | nil => exact .nil
  | cons first others ih =>
    cases first with
    | uses first next named ends => exact .uses first next named ends ih
    | includes first next opens named closes =>
      have whole := FrontWritten.includes first next opens named closes ih
      rwa [List.append_cons, ← List.cons_append, ← List.cons_append, ← List.cons_append] at whole
    | declares declared => exact .declares declared ih

/-- A used namespace is read. -/
theorem reads_usingLine : Reads usingLine OpeningWritten := by
  refine (reads_word .usingWord).step ?_
  rintro _ word ⟨rfl, first⟩
  refine (reads_word .namespaceWord).step ?_
  rintro _ second ⟨rfl, next⟩
  refine reads_name.step ?_
  rintro _ space ⟨rfl, named⟩
  refine (reads_mark .semicolon).step ?_
  rintro _ semicolon ⟨rfl, ends⟩
  exact reads_done (OpeningWritten.uses first next named ends)

/-- An included header is read. -/
theorem reads_includeLine : Reads includeLine OpeningWritten := by
  refine (reads_mark .hash).step ?_
  rintro _ hash ⟨rfl, first⟩
  refine (reads_word .includeWord).step ?_
  rintro _ word ⟨rfl, next⟩
  refine (reads_mark .less).step ?_
  rintro _ left ⟨rfl, opens⟩
  refine reads_headerName.step fun tokens header named => ?_
  refine (reads_mark .greater).step ?_
  rintro _ right ⟨rfl, closes⟩
  exact reads_done (OpeningWritten.includes first next opens named closes)

/-- Something that stands before the entry point is read. -/
theorem reads_opening (budget : Nat) : Reads (opening budget) OpeningWritten := by
  have declares : Reads (do return Opening.declares (← declarations (expr budget)))
      OpeningWritten :=
    (reads_declarations (reads_expr budget)).step fun tokens steps declared =>
      reads_done (OpeningWritten.declares declared)
  unfold opening
  refine reads_kind_bind declares.opens fun feed => ?_
  generalize feed.kind = kind
  split
  · exact reads_usingLine.fits feed
  · exact reads_includeLine.fits feed
  · exact declares.fits feed

/-- Every round of reading what stands before the entry point takes a token. -/
theorem shrinks_opening (budget : Nat) : Shrinks atOpening (opening budget) :=
  shrinks_of_fits (fun feed _ => (reads_opening budget).fits feed) opening_ne_nil

/-- Everything that stands before the entry point is read. -/
theorem reads_openings (budget : Nat) :
    Reads (many atOpening (opening budget)) (Language.Star OpeningWritten) :=
  reads_many (fun feed _ => (reads_opening budget).fits feed) opening_ne_nil

/-- The tokens that the entry point is recognised by. -/
theorem startsWith_entryAhead {feed : Feed} (ahead : feed.startsWith entryAhead = true) :
    ∃ (type name : Token) (rest : Feed), feed = [type, name] ++ rest ∧
      type.kind = .keyword .intWord ∧ name.kind = .name ∧ name.name? = some "main" ∧
        rest.kind = .mark .leftParen := by
  cases feed with
  | eof location => simp [entryAhead, Feed.startsWith, isKind, Feed.current, Token.eof] at ahead
  | last token fault => simp [entryAhead, Feed.startsWith, Feed.next] at ahead
  | more type behind =>
    cases behind with
    | eof location =>
      simp [entryAhead, Feed.startsWith, isKind, Feed.current, Token.eof] at ahead
    | last token fault => simp [entryAhead, Feed.startsWith, Feed.next] at ahead
    | more name rest =>
      simp only [entryAhead, Feed.startsWith, isKind, Feed.current_more, Feed.next_more,
        Bool.and_eq_true] at ahead
      obtain ⟨typed, ⟨kind, named⟩, opens⟩ := ahead
      exact ⟨type, name, rest, rfl, of_decide_eq_true typed, of_decide_eq_true kind,
        of_decide_eq_true named, of_decide_eq_true opens⟩

/-- The entry point is read where there is one. -/
theorem reads_entryPoint? (budget : Nat) :
    Reads (entryPoint? budget) (Language.Maybe EntryWritten) where
  opens := Language.opens_nil .none
  fits feed := by
    rw [entryPoint?, entryPointOf?, ParserLike.liftM_self, bind_apply, ahead_apply,
      Outcome.accepted_andThen]
    by_cases ahead : feed.startsWith entryAhead = true
    · obtain ⟨type, name, rest, rfl, typed, kind, named, -⟩ := startsWith_entryAhead ahead
      rw [if_pos ahead]
      -- The name is known only from looking ahead, so the first two tokens are passed by hand.
      have passed : entryPoint budget ([type, name] ++ rest) =
          (do
            let _ ← mark .leftParen
            let _ ← mark .rightParen
            let block ← braced (expr budget) (statement budget)
            return ⟨name, block.1, block.2⟩ : Parser EntryPoint) rest := by
        simp [entryPoint, entryPointOf, word_more typed, Grammar.name, eat_more kind]
      have fits : (entryPoint budget ([type, name] ++ rest)).Fits EntryWritten
          ([type, name] ++ rest) := by
        rw [passed]
        refine Outcome.Fits.behind (Reads.fits ((reads_mark .leftParen).step ?_) rest)
        rintro _ left ⟨rfl, opens⟩
        refine (reads_mark .rightParen).step ?_
        rintro _ right ⟨rfl, closes⟩
        refine (reads_braced (reads_expr budget) (reads_statement budget)).step ?_
        rintro _ _ ⟨enters, inner, leaves⟩
        exact reads_done (EntryWritten.mk typed kind named opens closes enters inner leaves)
      rw [bind_apply]
      refine (fits.andThen (fun entry => (reads_pure (some entry)).opens)
        fun entry => (reads_pure (some entry)).fits).mono ?_
      rintro _ _ ⟨tokens, entry, _, rfl, writes, rfl, rfl⟩
      rw [List.append_nil]
      exact .some writes
    · rw [if_neg ahead]
      exact ⟨[], rfl, .none⟩

/-- Every round of reading declaration lists takes a token. -/
theorem shrinks_declarations (budget : Nat) :
    Shrinks atDeclaration (declarations (expr budget)) :=
  shrinks_of_fits (fun feed _ => (reads_declarations (reads_expr budget)).fits feed)
    fun _ _ declared => declarations_ne_nil declared

/-- A program is read, whatever follows it. -/
theorem reads_program (budget : Nat) : Reads (program budget) ProgramWritten := by
  have behind : Reads (many atDeclaration (declarations (expr budget)))
      (Language.Star DeclarationsWritten) :=
    reads_many (fun feed _ => (reads_declarations (reads_expr budget)).fits feed)
      fun _ _ declared => declarations_ne_nil declared
  refine (reads_openings budget).step fun tokens openings star => ?_
  refine (reads_entryPoint? budget).step fun middle entry main => ?_
  refine behind.step fun tokens after tail => ?_
  exact reads_done (ProgramWritten.mk (front_of_star star) main tail)

/-- A whole program is read. -/
theorem reads_wholeProgram (budget : Nat) : Reads (wholeProgram budget) ProgramWritten := by
  refine (reads_program budget).step fun tokens program writes => ?_
  have done := reads_done writes
  refine reads_kind_ite done ?_
  exact ⟨done.opens, fun feed => fits_unexpected done.opens _ feed⟩

/-- A whole program is followed by the end of the file. -/
theorem ensures_wholeProgram (budget : Nat) :
    (wholeProgram budget).Ensures fun _ rest => rest.kind = .eof := by
  refine .bind fun program => ?_
  intro feed found rest accepted
  rw [ParserLike.liftM_self, bind_apply, kind_apply, Outcome.accepted_andThen] at accepted
  by_cases final : feed.kind = .eof
  · rw [if_pos final] at accepted
    cases accepted
    exact final
  · rw [if_neg final] at accepted
    cases accepted

end Cpplet.Grammar
