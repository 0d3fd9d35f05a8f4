import EvmFlow.Proofs.Contract.Ownership

/-!
# Giving a contract other code

A contract is given other code by assigning a source to it, or by stripping its metadata.  Such a
revision is refused, and then nothing changes, or it takes effect, and then nothing is left of what
was worked out of the old code.  `revise_of_error` and `revise_of_ok` say so of one revision;
`reviseAll_cases` says of any number of them that the last one not refused decides alone.
-/

namespace EvmFlow

/-! ## Reasons to refuse a source -/

namespace Source

theorem error_of_map {α β : Type} {given : Except Failure α} {f : α → β} {failure : Failure}
    (refused : given.map f = .error failure) : given = .error failure := by
  cases given with
  | error reason => cases refused; rfl
  | ok value => cases refused

theorem readHex_error {characters : List Char} {failure : Failure}
    (refused : readHex characters = .error failure) :
    ∃ position, failure = .notHexadecimal position := by
  rw [readHex] at refused
  cases decoded : Hex.decode characters with
  | error position =>
      rw [decoded] at refused
      cases refused
      exact ⟨position, rfl⟩
  | ok code =>
      rw [decoded] at refused
      cases refused

/-- Bytes are refused for what they spell, or for not being a text. -/
theorem readBytes_error {bytes : Code} {failure : Failure}
    (refused : readBytes bytes = .error failure) :
    (∃ position, failure = .notHexadecimal position) ∨
      ∃ malformed, failure = .malformedText malformed := by
  rw [readBytes] at refused
  split at refused
  · split at refused
    · rename_i malformed _
      cases refused
      exact .inr ⟨malformed, rfl⟩
    · exact .inl (readHex_error refused)
  · cases refused

theorem convert_error {source : Source} (supported : source ≠ .unsupported) {failure : Failure}
    (refused : source.convert = .error failure) :
    (∃ position, failure = .notHexadecimal position) ∨
      ∃ malformed, failure = .malformedText malformed := by
  cases source with
  | absent => cases refused
  | text content => exact .inl (readHex_error (error_of_map refused))
  | raw content => exact readBytes_error (error_of_map refused)
  | unsupported => exact absurd rfl supported

end Source

/-! ## One revision -/

/-- The ways in which a contract is given other code. -/
inductive Revision
  | assign (source : Source)
  | strip

namespace Revision

/-- What a revision makes of the code of a contract, or why it is refused. -/
def result (code : Option Code) : Revision → Except Failure (Option Code)
  | .assign .unsupported => .error .unsupportedCode
  | .assign source => source.convert
  | .strip =>
    match code with
    | none => .error .nothingToStrip
    | some code => (Source.raw (Metadata.strip code)).convert

/-- The reasons for which a revision of some code can be refused. -/
inductive Refusal (code : Option Code) : Revision → Failure → Prop
  | unsupported : Refusal code (.assign .unsupported) .unsupportedCode
  | nothingToStrip (absent : code = none) : Refusal code .strip .nothingToStrip
  | notHexadecimal (revision : Revision) (position : Nat) :
      Refusal code revision (.notHexadecimal position)
  | malformedText (revision : Revision) (malformed : Utf8.Malformed) :
      Refusal code revision (.malformedText malformed)

theorem result_assign {source : Source} (supported : source ≠ .unsupported) (code : Option Code) :
    (assign source).result code = source.convert := by
  rw [result]
  exact supported

/-- To strip code is to assign what is left of it. -/
theorem result_strip (code : Code) :
    strip.result (some code) = (assign (.raw (Metadata.strip code))).result (some code) :=
  rfl

theorem refusal_of_error {code : Option Code} {revision : Revision} {failure : Failure}
    (refused : revision.result code = .error failure) : Refusal code revision failure := by
  have converted : ∀ {source : Source}, source ≠ .unsupported →
      source.convert = .error failure → Refusal code revision failure := by
    intro source supported refused
    rcases Source.convert_error supported refused with ⟨position, rfl⟩ | ⟨malformed, rfl⟩
    · exact .notHexadecimal revision position
    · exact .malformedText revision malformed
  cases revision with
  | assign source =>
      by_cases unsupported : source = .unsupported
      · subst unsupported
        cases refused
        exact .unsupported
      · rw [result_assign unsupported] at refused
        exact converted unsupported refused
  | strip =>
      cases code with
      | none =>
          cases refused
          exact .nothingToStrip rfl
      | some code =>
          have supported : Source.raw (Metadata.strip code) ≠ .unsupported := by simp
          rw [result_strip, result_assign supported] at refused
          exact converted supported refused

end Revision

namespace Contract

/-- Revises the code of a contract. -/
def revise (contract : Contract) : Revision → Outcome Contract
  | .assign source => contract.setSource source
  | .strip => contract.stripMetadata

section Revising

variable {contract : Contract} {revision : Revision} {failure : Failure} {code : Option Code}

theorem setSource_of_error {source : Source}
    (refused : (Revision.assign source).result contract.code = .error failure) :
    (contract.setSource source).state = contract ∧
      (contract.setSource source).failure = some failure := by
  by_cases unsupported : source = .unsupported
  · subst unsupported
    cases refused
    exact ⟨rfl, rfl⟩
  · rw [Revision.result_assign unsupported] at refused
    rw [setSource]
    · rw [refused]
      exact ⟨rfl, rfl⟩
    · exact unsupported

theorem setSource_of_ok {source : Source}
    (given : (Revision.assign source).result contract.code = .ok code) :
    (contract.setSource source).state = { code } ∧
      (contract.setSource source).failure = none := by
  have supported : source ≠ .unsupported := by
    rintro rfl
    cases given
  rw [Revision.result_assign supported] at given
  rw [setSource]
  · rw [given]
    exact ⟨rfl, rfl⟩
  · exact supported

/-- A revision that is refused changes nothing. -/
theorem revise_of_error (refused : revision.result contract.code = .error failure) :
    (contract.revise revision).state = contract ∧
      (contract.revise revision).failure = some failure := by
  cases revision with
  | assign source => exact setSource_of_error refused
  | strip =>
      rw [revise, stripMetadata]
      cases held : contract.code with
      | none =>
          rw [held] at refused
          cases refused
          exact ⟨rfl, rfl⟩
      | some old =>
          rw [held, Revision.result_strip, ← held] at refused
          exact setSource_of_error refused

/-- A revision that is not refused leaves the new code and nothing else. -/
theorem revise_of_ok (given : revision.result contract.code = .ok code) :
    (contract.revise revision).state = { code } ∧ (contract.revise revision).failure = none := by
  cases revision with
  | assign source => exact setSource_of_ok given
  | strip =>
      rw [revise, stripMetadata]
      cases held : contract.code with
      | none =>
          rw [held] at given
          cases given
      | some old =>
          rw [held, Revision.result_strip, ← held] at given
          exact setSource_of_ok given

/-! ## Any number of revisions -/

/-- The contract after revisions, those that are refused included. -/
def reviseAll (contract : Contract) (revisions : List Revision) : Contract :=
  revisions.foldl (fun contract revision => (contract.revise revision).state) contract

/-- Every one of some revisions is refused by a contract. -/
def RefusesAll (contract : Contract) (revisions : List Revision) : Prop :=
  ∀ revision ∈ revisions, (contract.revise revision).failure ≠ none

theorem reviseAll_concat (contract : Contract) (revisions : List Revision) (last : Revision) :
    contract.reviseAll (revisions ++ [last]) =
      ((contract.reviseAll revisions).revise last).state :=
  List.foldl_concat ..

theorem RefusesAll.concat {revisions : List Revision} (refuses : contract.RefusesAll revisions)
    (refused : revision.result contract.code = .error failure) :
    contract.RefusesAll (revisions ++ [revision]) := by
  refine List.forall_mem_append.2 ⟨refuses, List.forall_mem_singleton.2 ?_⟩
  rw [(revise_of_error refused).2]
  exact Option.some_ne_none failure

/-- Revisions change nothing if all are refused; otherwise the last one that is not refused leaves
its code and nothing else. -/
theorem reviseAll_cases (contract : Contract) (revisions : List Revision) :
    (contract.reviseAll revisions = contract ∧ contract.RefusesAll revisions) ∨
      ∃ earlier revision later code, revisions = earlier ++ revision :: later ∧
        revision.result (contract.reviseAll earlier).code = .ok code ∧
        contract.reviseAll revisions = { code } ∧ RefusesAll { code } later := by
  induction revisions using List.reverseRecOn with
  | nil => exact .inl ⟨rfl, List.forall_mem_nil _⟩
  | append_singleton revisions last ih =>
      rw [reviseAll_concat]
      cases given : last.result (contract.reviseAll revisions).code with
      | ok code =>
          exact .inr ⟨revisions, last, [], code, rfl, given, (revise_of_ok given).1,
            List.forall_mem_nil _⟩
      | error failure =>
          rw [(revise_of_error given).1]
          rcases ih with ⟨same, refuses⟩ | ⟨earlier, revision, later, code, rfl, held, same, refuses⟩
          · rw [same] at given
            exact .inl ⟨same, refuses.concat given⟩
          · rw [same] at given
            exact .inr ⟨earlier, revision, later ++ [last], code, by simp, held, same,
              refuses.concat given⟩

end Revising
end Contract

/-- A revision of a contract is all or nothing.  If it is refused, for one of four reasons, the
contract is what it was.  Otherwise it has the code that the revision gives, and neither
instructions nor blocks, neither edges nor marks, and no functions.  An analysis of the contract that
is under way is as it was in the first case, and keeps the old blocks and their edges in the second.
After any number of revisions, the contract is what it was or has the code of the last one that was
not refused, and nothing else. -/
theorem revision_all_or_nothing (contract : Contract) :
    (∀ revision,
      let outcome := contract.revise revision
      (∀ failure, outcome.failure = some failure →
        revision.Refusal contract.code failure ∧ outcome.state = contract ∧
          ∀ analysis, (Study.renew ⟨contract, analysis⟩ (·.revise revision)).state =
            ⟨contract, analysis⟩) ∧
      (outcome.failure = none →
        revision.result contract.code = .ok outcome.state.code ∧
          outcome.state.layout.instructions = [] ∧ outcome.state.layout.blocks = [] ∧
          outcome.state.functions = [] ∧ outcome.state.graph = {} ∧
          ∀ analysis, (Study.renew ⟨contract, analysis⟩ (·.revise revision)).state =
            ⟨outcome.state, analysis.older ⟨contract.layout, contract.graph⟩⟩)) ∧
    ∀ revisions,
      (contract.reviseAll revisions = contract ∧ contract.RefusesAll revisions) ∨
        ∃ earlier revision later code, revisions = earlier ++ revision :: later ∧
          revision.result (contract.reviseAll earlier).code = .ok code ∧
          contract.reviseAll revisions = { code } ∧ Contract.RefusesAll { code } later := by
  refine ⟨fun revision => ?_, contract.reviseAll_cases⟩
  intro outcome
  cases given : revision.result contract.code with
  | error reason =>
      obtain ⟨state_eq, failure_eq⟩ := Contract.revise_of_error given
      refine ⟨fun failure failed => ?_, fun completed => ?_⟩
      · cases failure_eq.symm.trans failed
        refine ⟨Revision.refusal_of_error given, state_eq, fun analysis => ?_⟩
        simp only [Study.renew, failure_eq, state_eq]
      · cases failure_eq.symm.trans completed
  | ok code =>
      obtain ⟨state_eq, failure_eq⟩ := Contract.revise_of_ok given
      refine ⟨fun failure failed => ?_, fun _ => ?_⟩
      · cases failure_eq.symm.trans failed
      · have outcome_eq : outcome.state = { code } := state_eq
        rw [outcome_eq]
        refine ⟨rfl, rfl, rfl, rfl, rfl, fun analysis => ?_⟩
        simp only [Study.renew, failure_eq, state_eq]
        rfl

/-- A contract with three functions refuses a text that is no hexadecimal number and a value that is
neither text nor bytes, and stays what it was.  Without its metadata it has the same code, but the
functions are gone. -/
theorem twinCode_revised :
    let contract := (Contract.build {} (.raw twinCode) {}).state
    let misspelled := contract.revise (.assign (.text "0x6g"))
    let unsupported := contract.revise (.assign .unsupported)
    let stripped := contract.revise .strip
    contract.functions = [firstTwin, secondTwin, twinDispatcher] ∧
      misspelled.failure = some (.notHexadecimal 1) ∧ misspelled.state = contract ∧
      unsupported.failure = some .unsupportedCode ∧ unsupported.state = contract ∧
      stripped.failure = none ∧ stripped.state.code = some twinCode ∧
      stripped.state.functions = [] ∧
      contract.reviseAll [.assign (.text "0x6g"), .assign .unsupported] = contract := by
  intro contract misspelled unsupported stripped
  obtain ⟨one, all⟩ := revision_all_or_nothing contract
  have misspelled_failure : misspelled.failure = some (.notHexadecimal 1) := by decide +kernel
  have unsupported_failure : unsupported.failure = some .unsupportedCode := rfl
  have stripped_failure : stripped.failure = none := by decide +kernel
  obtain ⟨-, -, -, unlisted, -, -⟩ := (one .strip).2 stripped_failure
  have misspelled_state := ((one (.assign (.text "0x6g"))).1 _ misspelled_failure).2.1
  have unsupported_state := ((one (.assign .unsupported)).1 _ unsupported_failure).2.1
  refine ⟨twinCode_functions, misspelled_failure, misspelled_state, unsupported_failure,
    unsupported_state, stripped_failure, by decide +kernel, unlisted, ?_⟩
  rw [Contract.reviseAll, List.foldl_cons, misspelled_state, List.foldl_cons, unsupported_state]
  rfl

end EvmFlow
