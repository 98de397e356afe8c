import SlashCommand.Proofs.Config.Failures
import SlashCommand.Proofs.Shell.Escape
import SlashCommand.Proofs.Shell.Wrap
import SlashCommand.Shell.Startup

/-!
# Starting with a grammar

The shell starts with the grammar that is named or found, or it reports why it cannot: on the
console, behind a heading, and with the status 1.  The report never fails itself.  The reason is
escaped, so there are no tags in it that could be wrong, and the heading stands at the beginning of
the first line however long the reason is (`exists_loadFailure_eq_ofLines`).

What is reported are the failures that loading announces, and that a path is too long.
`startOutcome` says what is left: texts that are no documents, for reasons that nobody announces.
-/

namespace SlashCommand.Shell

open Config
open Grammar (Registry)
open Markup

/-! ## What is printed -/

/-- What is printed in front of the reason why a grammar could not be loaded. -/
def loadHeading : List Char :=
  "Could not load grammar config:".toList

/-- The style of the heading is found, whether or not it is a color. -/
lemma exists_tagName_error : ∃ name, tagName "error".toList = .ok name := by
  obtain ⟨isColor, hcolor⟩ : ∃ isColor, Style.isColor "error" = .ok isColor := ⟨_, rfl⟩
  have hlowered : Text.lowercase "error" = "error" := by decide +kernel
  have hattribute : Style.attribute? "error" = none := by decide
  have hread : Style.readColor "error" = if isColor then .ok "error" else .error .noStyle := by
    rw [Style.readColor, hlowered, hcolor]
    rfl
  have hstyle : Style.ofWords .plain ["error"] =
      if isColor then .ok { Style.plain with color := some "error" } else .error .noStyle := by
    simp only [Style.ofWords, hlowered, hattribute, hread]
    cases isColor <;> rfl
  have hwords : Text.wordsOf "error".toList = ["error"] := by decide
  have hnone : ["error"] ≠ ["none"] := by decide
  rw [tagName, normalStyle, hwords, if_neg hnone, hstyle]
  cases isColor <;> exact ⟨_, rfl⟩

/-- The pieces of the heading, in front of other characters. -/
lemma pieces_heading (cs : List Char) :
    pieces ("[error]".toList ++ (loadHeading ++ ("[/]".toList ++ ([' '] ++ cs)))) =
      .tag 0 "error".toList none :: .text loadHeading :: .tag 37 ['/'] none ::
        piecesFrom 41 [' '] (cs.length + 9) cs := by
  have hroom : ("[error]".toList ++ (loadHeading ++ ("[/]".toList ++ ([' '] ++ cs)))).length + 1 =
      cs.length + 9 + [' '].length + 1 + loadHeading.length + 1 := by
    simp only [List.length_append]
    have hlengths : "[error]".toList.length = 7 ∧ "[/]".toList.length = 3 := by decide
    omega
  have hplain : loadHeading.all (fun c => c != '[' && c != '\\') = true := by decide
  have hspace : [' '].all (fun c => c != '[' && c != '\\') = true := by decide
  have hbegin : ∀ more, tag? ("[error]".toList ++ more) = some ("[error]".toList, more) :=
    fun more => rfl
  have hend : ∀ more, tag? ("[/]".toList ++ more) = some ("[/]".toList, more) := fun more => rfl
  rw [pieces, hroom, piecesFrom_tag hbegin ⟨_, rfl⟩, piecesFrom_append_of_plain hplain,
    piecesFrom_tag hend ⟨_, rfl⟩, piecesFrom_append_of_plain hspace]
  rfl

/-- The heading is printed, and then what follows it. -/
lemma renderPieces_heading {pieces : List Piece} {characters : List Char}
    (hpieces : renderPieces [] pieces = .ok characters) :
    renderPieces [] (.tag 0 "error".toList none :: .text loadHeading :: .tag 37 ['/'] none ::
      pieces) = .ok (loadHeading ++ characters) := by
  obtain ⟨name, hname⟩ := exists_tagName_error
  have hheading : Text.withEmoji (dropEscapes loadHeading) = loadHeading := by decide +kernel
  have hclosed : renderPieces [(name, none)] (.tag 37 ['/'] none :: pieces) = .ok characters :=
    hpieces
  have htext : renderPieces [(name, none)] (.text loadHeading :: .tag 37 ['/'] none :: pieces) =
      .ok (loadHeading ++ characters) := by
    rw [renderPieces, hclosed, hheading]
    rfl
  change (tagName "error".toList >>= fun name => renderPieces [(name, none)] _) = _
  rw [hname]
  exact htext

/-- The tags of the heading are given nothing, so there is nothing in them to check. -/
lemma checkStyles_heading (pieces : List Piece) :
    checkStyles (.tag 0 "error".toList none :: .text loadHeading :: .tag 37 ['/'] none ::
      pieces) = checkStyles pieces :=
  rfl

/-- Whatever the reason is, it is printed behind the heading. -/
theorem exists_rendered_eq_ok (text : String) :
    ∃ more, rendered s!"[error]Could not load grammar config:[/] {Markup.escape text}" =
      .ok (loadHeading ++ ' ' :: more) := by
  have hmarkup : (s!"[error]Could not load grammar config:[/] {Markup.escape text}").toList =
      "[error]".toList ++ (loadHeading ++ ("[/]".toList ++ ([' '] ++ (escape text).toList))) := by
    rw [String.toList_append]
    rfl
  -- the blank behind the heading begins the first piece of the text
  obtain ⟨characters, pieces, hpieces⟩ := exists_piecesFrom_eq_cons (List.cons_ne_nil ' ' [])
    (Nat.lt_add_of_pos_right (Nat.succ_pos 8)) 41
  have htexts := isText_piecesFrom_escape text 41 [' '] ((escape text).toList.length + 9)
  rw [hpieces] at htexts
  obtain ⟨more, hmore⟩ := exists_renderPieces_eq_ok
    (fun piece hpiece => htexts piece (List.mem_cons_of_mem _ hpiece)) []
  have hrender : renderPieces [] (.text ([' '].reverse ++ characters) :: pieces) =
      .ok (' ' :: (Text.withEmoji (dropEscapes characters) ++ more)) := by
    rw [renderPieces, hmore]
    rfl
  have hmarked : render s!"[error]Could not load grammar config:[/] {Markup.escape text}" =
      .ok (loadHeading ++ ' ' :: (Text.withEmoji (dropEscapes characters) ++ more)) := by
    rw [render, hmarkup, pieces_heading, hpieces, renderPieces_heading hrender]
    have hchecked := (checkStyles_heading _).trans (checkStyles_of_isText htexts)
    exact bind_eq_ok_iff.mpr ⟨_, rfl, bind_eq_ok_iff.mpr ⟨(), hchecked, rfl⟩⟩
  have hheading : (loadHeading.filter fun c => !isCursorControl c) = loadHeading := by decide
  rw [rendered, hmarked]
  refine ⟨(Text.withEmoji (dropEscapes characters) ++ more).filter fun c => !isCursorControl c, ?_⟩
  change Except.ok (List.filter _ _) = _
  rw [List.filter_append, hheading]
  rfl

/-- The first line that is printed begins with the heading, and nothing stops the printing. -/
theorem exists_loadFailure_eq_ofLines (error : LoadError) :
    ∃ line lines, loadFailure error = .ofLines (line :: lines) ∧ loadHeading <+: line.toList := by
  let words := ["Could".toList, "not".toList, "load".toList, "grammar".toList, "config:".toList]
  have hwords : ∀ word ∈ words, IsPlainWord word := by
    intro word hword
    simp only [words, List.mem_cons, List.not_mem_nil, or_false] at hword
    rcases hword with rfl | rfl | rfl | rfl | rfl <;>
      exact .of_all (by decide) (by decide)
  obtain ⟨more, hrendered⟩ := exists_rendered_eq_ok (loadFailureText error)
  have hspaced : loadHeading ++ ' ' :: more = spaced words ++ more := rfl
  have hroom : (spaced words).length ≤ consoleWidth + 1 := by decide
  obtain ⟨line, lines, hlines, hprefix⟩ :=
    exists_fitLines_eq_cons hwords (List.cons_ne_nil _ _) hroom more
  refine ⟨String.ofList line, lines.map String.ofList, ?_, ?_⟩
  · rw [loadFailure, printed, hrendered, hspaced]
    simp only [hlines, List.map_cons]
  · rw [String.toList_ofList]
    exact hprefix

/-! ## How a start ends -/

/-- Whether the program ends with a report of why a grammar could not be loaded. -/
structure Reports (ending : Ending) : Prop where
  headed : ∃ line lines, ending.output = .ofLines (line :: lines) ∧ loadHeading <+: line.toList
  complaints_eq : ending.complaints = []
  status_eq : ending.status = 1

lemma reports_loadFailure (error : LoadError) : Reports ⟨loadFailure error, [], 1⟩ := by
  obtain ⟨line, lines, hlines, hprefix⟩ := exists_loadFailure_eq_ofLines error
  rw [hlines]
  exact ⟨⟨line, lines, rfl, hprefix⟩, rfl, rfl⟩

variable {path : String} {found : Found} {error : LoadError}

lemma registry_opening_of_load_eq_ok {registry : Registry}
    (h : Config.load path found true = .ok registry) :
    (opening (.ok (some (path, found)))).registry = .ok registry := by
  simp only [opening, h, Opening.registry]

lemma registry_opening_of_isReported (h : Config.load path found true = .error error)
    (hreported : isReported error = true) :
    (opening (.ok (some (path, found)))).registry = .error ⟨loadFailure error, [], 1⟩ := by
  simp only [opening, h, hreported, if_true, Opening.registry]

lemma registry_opening_of_not_isReported (h : Config.load path found true = .error error)
    (hreported : isReported error = false) :
    (opening (.ok (some (path, found)))).registry = .error ⟨.ofLines [], [error.message], 1⟩ := by
  simp [opening, h, hreported, Opening.registry]

/-- An error is not reported exactly if it is one that nobody announces and that does not come from
the machine. -/
lemma isReported_eq_false_iff :
    isReported error = false ↔ error.failure? = none ∧ error.isSystem = false := by
  rw [isReported, Bool.or_eq_false_iff, Option.isSome_eq_false_iff, Option.isNone_iff_eq_none]

/-- What is not reported is that a text is no document, for a reason that nobody announces. -/
lemma isReported_eq_false_iff_unannounced (h : Config.load path found true = .error error) :
    isReported error = false ↔ Unannounced path found := by
  have hsystem := Config.isSystem_iff h
  rw [isReported_eq_false_iff, Config.failure?_eq_none_iff h, ← Bool.not_eq_true, hsystem]
  constructor
  · rintro ⟨hoverlong | hunannounced, hne⟩
    · exact absurd hoverlong hne
    · exact hunannounced
  · intro hunannounced
    refine ⟨.inr hunannounced, ?_⟩
    rintro rfl
    cases hunannounced

/-- What comes of starting the shell with the grammar that is found at a path. -/
structure StartOutcome (path : String) (found : Found) : Prop where
  /-- Loading announces why it fails, unless the path is too long or the text is no document for a
  reason that nobody announces. -/
  failure?_eq_none_iff : ∀ includeBuiltin error,
    Config.load path found includeBuiltin = .error error →
      (error.failure? = none ↔ found = .overlong ∨ Unannounced path found)
  isSystem_iff : ∀ includeBuiltin error,
    Config.load path found includeBuiltin = .error error →
      (error.isSystem = true ↔ found = .overlong)
  /-- The shell starts, or it is reported that the path is too long or which announced failure there
  was. -/
  starts_or_reports : ¬ Unannounced path found →
    (∃ registry, Config.load path found true = .ok registry ∧
      (opening (.ok (some (path, found)))).registry = .ok registry) ∨
    ∃ error ending, Config.load path found true = .error error ∧
      (found = .overlong ∨ ∃ failure, error.failure? = some failure) ∧
      (opening (.ok (some (path, found)))).registry = .error ending ∧ Reports ending
  /-- Otherwise the program breaks down and reports nothing. -/
  breaks_down : Unannounced path found →
    ∃ error, Config.load path found true = .error error ∧ error.failure? = none ∧
      (opening (.ok (some (path, found)))).registry = .error ⟨.ofLines [], [error.message], 1⟩
  /-- Where texts are refused for mistakes in their notation alone, those that should be YAML are
  the ones that nobody announces. -/
  unannounced_iff : MistakesOnly path found → (Unannounced path found ↔ NotYaml path found)

end SlashCommand.Shell
