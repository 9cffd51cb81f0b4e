import Telescope.Data.Exception
import Telescope.Text.Integer

namespace Telescope

namespace Clusterloader2

/-! The conversion of a JUnit report, from the tree that the XML parser builds. -/

inductive Node where
  | element (tagName : Text) (attributes : List (Text × Text)) (childNodes : List Node)
  | text (data : Text)
  | cdata (data : Text)
  | comment (data : Text)
  | instruction (target data : Text)

structure Element where
  attributes : List (Text × Text)
  childNodes : List Node

def Node.nodeValue : Node → Option Text
  | .element _ _ _ => none
  | .text data | .cdata data | .comment data | .instruction _ data => some data

mutual

/-- The elements of one name in a node, itself included, in document order. -/
def Node.elements (name : Text) : Node → List Element
  | .element tagName attributes childNodes =>
      if tagName = name then ⟨attributes, childNodes⟩ :: elementsIn name childNodes
      else elementsIn name childNodes
  | _ => []

/-- `getElementsByTagName(name)` on the parent of the nodes. -/
def elementsIn (name : Text) : List Node → List Element
  | [] => []
  | node :: rest => node.elements name ++ elementsIn name rest

end

def getAttribute (attributes : List (Text × Text)) (name : Text) : Text :=
  match attributes with
  | [] => []
  | (other, value) :: rest => if other = name then value else getAttribute rest name

structure CaseResult where
  name : Text
  classname : Text
  time : Text
  failure : Option Text

structure SuiteResult where
  name : Text
  tests : Int
  failures : Int
  errors : Int
  testcases : List CaseResult

def intAttribute (suite : Element) (name : Text) : Except Error Int :=
  match parseInteger? (getAttribute suite.attributes name) with
  | some value => .ok value
  | none => .error (.valueError (lit "invalid literal for int() with base 10"))

/-- `failure[0].firstChild.nodeValue`, if there is a failure. -/
def failureMessage (testcase : Element) : Except Error (Option Text) :=
  match elementsIn (lit "failure") testcase.childNodes with
  | [] => .ok none
  | failure :: _ =>
      match failure.childNodes with
      | [] => .error ⟨.attributeError, lit "'NoneType' object has no attribute 'nodeValue'"⟩
      | firstChild :: _ => .ok firstChild.nodeValue

def caseResult (testcase : Element) : Except Error CaseResult := do
  let failure ← failureMessage testcase
  return {
    name := getAttribute testcase.attributes (lit "name")
    classname := getAttribute testcase.attributes (lit "classname")
    time := getAttribute testcase.attributes (lit "time")
    failure }

def suiteResult (testsuite : Element) : Except Error SuiteResult := do
  let tests ← intAttribute testsuite (lit "tests")
  let failures ← intAttribute testsuite (lit "failures")
  let errors ← intAttribute testsuite (lit "errors")
  let testcases ← (elementsIn (lit "testcase") testsuite.childNodes).mapM caseResult
  return {
    name := getAttribute testsuite.attributes (lit "name")
    tests, failures, errors, testcases }

/-- `parse_xml_to_json` on the nodes of the document; the result stands for the
object that is written as JSON. -/
def parseXmlToJson (document : List Node) : Except Error (List SuiteResult) :=
  (elementsIn (lit "testsuite") document).mapM suiteResult

/-! JUnit documents, and the trees they stand for. -/

def reservedNames : List Text := [lit "testsuite", lit "testcase", lit "failure"]

structure PlainNode where
  node : Node
  plain : ∀ name ∈ reservedNames, node.elements name = []

structure Failure where
  attributes : List (Text × Text)
  children : List PlainNode

inductive CaseItem where
  | failure (failure : Failure)
  | other (node : PlainNode)

structure Testcase where
  attributes : List (Text × Text)
  items : List CaseItem

inductive SuiteItem where
  | testcase (testcase : Testcase)
  | other (node : PlainNode)

structure Testsuite where
  attributes : List (Text × Text)
  tests : IntegerLiteral
  failures : IntegerLiteral
  errors : IntegerLiteral
  hasTests : getAttribute attributes (lit "tests") = tests.text
  hasFailures : getAttribute attributes (lit "failures") = failures.text
  hasErrors : getAttribute attributes (lit "errors") = errors.text
  items : List SuiteItem

inductive DocumentItem where
  | testsuite (testsuite : Testsuite)
  | other (node : PlainNode)

/-- The root of a document holds the suites or is the only one. -/
inductive Root where
  | testsuites (attributes : List (Text × Text)) (items : List DocumentItem)
  | testsuite (testsuite : Testsuite)

structure JunitDocument where
  before : List PlainNode
  root : Root
  after : List PlainNode

def Failure.element (failure : Failure) : Element :=
  ⟨failure.attributes, failure.children.map (·.node)⟩

def CaseItem.node : CaseItem → Node
  | .failure shown => .element (lit "failure") shown.attributes (shown.children.map (·.node))
  | .other node => node.node

def Testcase.element (testcase : Testcase) : Element :=
  ⟨testcase.attributes, testcase.items.map (·.node)⟩

def SuiteItem.node : SuiteItem → Node
  | .testcase run => .element (lit "testcase") run.attributes (run.items.map (·.node))
  | .other node => node.node

def Testsuite.element (testsuite : Testsuite) : Element :=
  ⟨testsuite.attributes, testsuite.items.map (·.node)⟩

def Testsuite.node (testsuite : Testsuite) : Node :=
  .element (lit "testsuite") testsuite.attributes (testsuite.items.map (·.node))

def DocumentItem.node : DocumentItem → Node
  | .testsuite suite => suite.node
  | .other node => node.node

def Root.node : Root → Node
  | .testsuites attributes items => .element (lit "testsuites") attributes (items.map (·.node))
  | .testsuite suite => suite.node

def JunitDocument.nodes (document : JunitDocument) : List Node :=
  document.before.map (·.node) ++ document.root.node :: document.after.map (·.node)

def Testcase.failures (testcase : Testcase) : List Failure :=
  testcase.items.filterMap fun
    | .failure shown => some shown
    | .other _ => none

def Testsuite.testcases (testsuite : Testsuite) : List Testcase :=
  testsuite.items.filterMap fun
    | .testcase run => some run
    | .other _ => none

def JunitDocument.testsuites (document : JunitDocument) : List Testsuite :=
  match document.root with
  | .testsuites _ items =>
      items.filterMap fun
        | .testsuite suite => some suite
        | .other _ => none
  | .testsuite suite => [suite]

/-! What the descendant queries find in them. -/

private theorem elementsIn_append (name : Text) (first second : List Node) :
    elementsIn name (first ++ second) = elementsIn name first ++ elementsIn name second := by
  induction first with
  | nil => rfl
  | cons node rest induction =>
      rw [List.cons_append, elementsIn, elementsIn, induction, List.append_assoc]

theorem elementsIn_map {ι κ : Type} {name : Text} {node : ι → Node} {select : ι → Option κ}
    {element : κ → Element} {items : List ι}
    (holds : ∀ item ∈ items, (node item).elements name = ((select item).map element).toList) :
    elementsIn name (items.map node) = (items.filterMap select).map element := by
  induction items with
  | nil => rfl
  | cons item rest induction =>
      have here := holds item List.mem_cons_self
      have later := induction fun other member => holds other (List.mem_cons_of_mem _ member)
      rw [List.map_cons, elementsIn, here, later]
      cases selected : select item with
      | none => rw [List.filterMap_cons_none selected]; rfl
      | some found => rw [List.filterMap_cons_some selected]; rfl

theorem elementsIn_eq_nil {name : Text} {nodes : List Node}
    (none : ∀ node ∈ nodes, node.elements name = []) : elementsIn name nodes = [] := by
  induction nodes with
  | nil => rfl
  | cons node rest induction =>
      rw [elementsIn, none node List.mem_cons_self,
        induction fun other member => none other (List.mem_cons_of_mem _ member)]
      rfl

theorem elementsIn_plain {name : Text} (reserved : name ∈ reservedNames)
    (nodes : List PlainNode) : elementsIn name (nodes.map (·.node)) = [] := by
  refine elementsIn_eq_nil (List.forall_mem_map.mpr ?_)
  intro node _
  exact node.plain name reserved

/-- Neither the cases nor the suites of a document are nested in its cases. -/
theorem Testcase.elements_other {name : Text} (reserved : name ∈ reservedNames)
    (notFailure : name ≠ lit "failure") (testcase : Testcase) :
    elementsIn name (testcase.items.map (·.node)) = [] := by
  refine elementsIn_eq_nil (List.forall_mem_map.mpr ?_)
  intro item _
  cases item with
  | failure shown =>
      rw [CaseItem.node, Node.elements, if_neg notFailure.symm]
      exact elementsIn_plain reserved shown.children
  | other node => exact node.plain name reserved

private theorem Testcase.elements_failure (testcase : Testcase) :
    elementsIn (lit "failure") testcase.element.childNodes =
      testcase.failures.map Failure.element := by
  refine elementsIn_map ?_
  intro item _
  cases item with
  | failure shown =>
      rw [CaseItem.node, Node.elements, if_pos rfl, elementsIn_plain (by decide)]
      rfl
  | other node => exact node.plain _ (by decide)

private theorem Testsuite.elements_testcase (testsuite : Testsuite) :
    elementsIn (lit "testcase") testsuite.element.childNodes =
      testsuite.testcases.map Testcase.element := by
  refine elementsIn_map ?_
  intro item _
  cases item with
  | testcase run =>
      rw [SuiteItem.node, Node.elements, if_pos rfl,
        run.elements_other (by decide) (by decide)]
      rfl
  | other node => exact node.plain _ (by decide)

theorem Testsuite.elements_self (testsuite : Testsuite) :
    testsuite.node.elements (lit "testsuite") = [testsuite.element] := by
  have inside : elementsIn (lit "testsuite") (testsuite.items.map (·.node)) = [] := by
    refine elementsIn_eq_nil (List.forall_mem_map.mpr ?_)
    intro item _
    cases item with
    | testcase run =>
        rw [SuiteItem.node, Node.elements, if_neg (by decide)]
        exact run.elements_other (by decide) (by decide)
    | other node => exact node.plain _ (by decide)
  rw [Testsuite.node, Node.elements, if_pos rfl, inside]
  rfl

private theorem JunitDocument.elements_testsuite (document : JunitDocument) :
    elementsIn (lit "testsuite") document.nodes =
      document.testsuites.map Testsuite.element := by
  have root : document.root.node.elements (lit "testsuite") =
      document.testsuites.map Testsuite.element := by
    unfold JunitDocument.testsuites
    cases document.root with
    | testsuites attributes items =>
        rw [Root.node, Node.elements, if_neg (by decide)]
        refine elementsIn_map ?_
        intro item _
        cases item with
        | testsuite suite => exact suite.elements_self
        | other node => exact node.plain _ (by decide)
    | testsuite suite => exact suite.elements_self
  rw [JunitDocument.nodes, elementsIn_append, elementsIn, elementsIn_plain (by decide),
    elementsIn_plain (by decide), root, List.nil_append, List.append_nil]

/-! What the result should say. -/

def failed (result : CaseResult) : Bool := !(result.failure.getD []).isEmpty

structure CaseListed (testcase : Testcase) (result : CaseResult) : Prop where
  name : result.name = getAttribute testcase.attributes (lit "name")
  classname : result.classname = getAttribute testcase.attributes (lit "classname")
  time : result.time = getAttribute testcase.attributes (lit "time")
  failure : failed result = true ↔ testcase.failures ≠ []

structure SuiteListed (testsuite : Testsuite) (result : SuiteResult) : Prop where
  name : result.name = getAttribute testsuite.attributes (lit "name")
  tests : result.tests = testsuite.tests.value
  failures : result.failures = testsuite.failures.value
  errors : result.errors = testsuite.errors.value
  testcases : List.Forall₂ CaseListed testsuite.testcases result.testcases

/-- The first failure of a case, if any, starts with a node that has a nonempty value. -/
def Testcase.readable (testcase : Testcase) : Prop :=
  ∀ failure ∈ testcase.failures.head?, ∃ child message,
    failure.children.head? = some child ∧ child.node.nodeValue = some message ∧ message ≠ []

def Testsuite.readable (testsuite : Testsuite) : Prop :=
  (∀ count ∈ [testsuite.tests, testsuite.failures, testsuite.errors],
    count.digits.chars.length ≤ intMaxStrDigits) ∧
  ∀ testcase ∈ testsuite.testcases, testcase.readable

private theorem exists_caseResult_iff (testcase : Testcase) :
    (∃ result, caseResult testcase.element = .ok result ∧ CaseListed testcase result) ↔
      testcase.readable := by
  unfold caseResult failureMessage Testcase.readable
  rw [testcase.elements_failure]
  cases found : testcase.failures with
  | nil =>
      refine ⟨fun _ => by simp, fun _ => ⟨_, rfl, rfl, rfl, rfl, ?_⟩⟩
      simp [failed, found]
  | cons failure rest =>
      simp only [List.map_cons, Failure.element, List.head?_cons, Option.mem_def,
        Option.some.injEq, forall_eq']
      cases failure.children with
      | nil =>
          constructor
          · rintro ⟨result, impossible, -⟩
            exact nomatch impossible
          · rintro ⟨child, message, impossible, -⟩
            exact nomatch impossible
      | cons child others =>
          simp only [List.map_cons, List.head?_cons, Option.some.injEq]
          constructor
          · rintro ⟨result, returned, listed⟩
            cases returned
            have shown := listed.failure.mpr (by rw [found]; exact List.cons_ne_nil _ _)
            cases value : child.node.nodeValue with
            | none => simp [failed, value] at shown
            | some message =>
                exact ⟨child, message, rfl, value, by simpa [failed, value] using shown⟩
          · rintro ⟨first, message, rfl, value, nonempty⟩
            refine ⟨_, rfl, rfl, rfl, rfl, ?_⟩
            simp [failed, found, value, nonempty]

theorem intAttribute_literal (suite : Element) {name : Text} {count : IntegerLiteral}
    (written : getAttribute suite.attributes name = count.text) :
    (∃ value, intAttribute suite name = .ok value ∧ value = count.value) ↔
      count.digits.chars.length ≤ intMaxStrDigits := by
  unfold intAttribute
  rw [written, count.parseInteger?_text]
  by_cases short : count.digits.chars.length ≤ intMaxStrDigits
  · simp [short]
  · simp [short]

private theorem exists_suiteResult_iff (testsuite : Testsuite) :
    (∃ result, suiteResult testsuite.element = .ok result ∧ SuiteListed testsuite result) ↔
      testsuite.readable := by
  have tests := intAttribute_literal testsuite.element testsuite.hasTests
  have failures := intAttribute_literal testsuite.element testsuite.hasFailures
  have errors := intAttribute_literal testsuite.element testsuite.hasErrors
  have testcases := exists_mapM_iff (caseResult ∘ Testcase.element) CaseListed testsuite.testcases
  simp only [Function.comp_apply, exists_caseResult_iff] at testcases
  unfold suiteResult Testsuite.readable
  rw [testsuite.elements_testcase, List.mapM_map, ← testcases]
  simp only [List.forall_mem_cons, List.not_mem_nil, false_implies, implies_true, and_true,
    ← tests, ← failures, ← errors]
  constructor
  · rintro ⟨result, returned, listed⟩
    obtain ⟨readTests, testsRead, later⟩ := exists_of_bind_eq_ok returned
    obtain ⟨readFailures, failuresRead, later⟩ := exists_of_bind_eq_ok later
    obtain ⟨readErrors, errorsRead, later⟩ := exists_of_bind_eq_ok later
    obtain ⟨readCases, casesRead, later⟩ := exists_of_bind_eq_ok later
    cases later
    exact ⟨⟨⟨_, testsRead, listed.tests⟩, ⟨_, failuresRead, listed.failures⟩,
      ⟨_, errorsRead, listed.errors⟩⟩, ⟨_, casesRead, listed.testcases⟩⟩
  · rintro ⟨⟨⟨_, testsRead, rfl⟩, ⟨_, failuresRead, rfl⟩, ⟨_, errorsRead, rfl⟩⟩,
      readCases, casesRead, listed⟩
    refine ⟨⟨_, _, _, _, readCases⟩, ?_, rfl, rfl, rfl, rfl, listed⟩
    rw [testsRead, failuresRead, errorsRead, casesRead]
    rfl

/-- The conversion of a document lists its suites with their cases, and every
failure as one, exactly when each suite is readable. -/
theorem parseXmlToJson_iff (document : JunitDocument) :
    (∃ results, parseXmlToJson document.nodes = .ok results ∧
        List.Forall₂ SuiteListed document.testsuites results) ↔
      ∀ testsuite ∈ document.testsuites, testsuite.readable := by
  have suites :=
    exists_mapM_iff (suiteResult ∘ Testsuite.element) SuiteListed document.testsuites
  simp only [Function.comp_apply, exists_suiteResult_iff] at suites
  rw [parseXmlToJson, document.elements_testsuite, List.mapM_map]
  exact suites

def attributeFailure : Testcase where
  attributes := [(lit "name", lit "gather")]
  items := [.failure ⟨[(lit "message", lit "timed out")], []⟩]

theorem one_ne_nil : lit "1" ≠ [] := by decide

def attributeFailureSuite : Testsuite where
  attributes := [(lit "name", lit "load"), (lit "tests", lit "1"), (lit "failures", lit "1"),
    (lit "errors", lit "0")]
  tests := ⟨none, digitsOf (lit "1") one_ne_nil (by decide)⟩
  failures := ⟨none, digitsOf (lit "1") one_ne_nil (by decide)⟩
  errors := ⟨none, digitsOf (lit "0") (by decide) (by decide)⟩
  hasTests := rfl
  hasFailures := rfl
  hasErrors := rfl
  items := [.testcase attributeFailure]

theorem not_parseXmlToJson :
    ¬∀ document : JunitDocument, ∃ results, parseXmlToJson document.nodes = .ok results ∧
      List.Forall₂ SuiteListed document.testsuites results := by
  intro lists
  obtain ⟨results, impossible, -⟩ := lists ⟨[], .testsuite attributeFailureSuite, []⟩
  exact nomatch impossible

/-! The same suite with a message inside the failure, among text, comments and output. -/

def lineBreak : PlainNode := ⟨.text ['\n'], fun _ _ => rfl⟩

def remark : PlainNode := ⟨.comment (lit "clusterloader2"), fun _ _ => rfl⟩

def timedOut : PlainNode := ⟨.text (lit "timed out"), fun _ _ => rfl⟩

private theorem systemOut_plain : ∀ name ∈ reservedNames,
    (Node.element (lit "system-out") [] [.text (lit "gathering")]).elements name = [] := by
  decide

def messageFailureSuite : Testsuite :=
  { attributeFailureSuite with
    items := [.other lineBreak, .testcase
      { attributes := [(lit "name", lit "gather")]
        items := [.other lineBreak, .failure ⟨[], [timedOut, remark]⟩,
          .other ⟨_, systemOut_plain⟩] }, .other remark] }

def messageFailureDocument : JunitDocument where
  before := [remark]
  root := .testsuites [] [.other lineBreak, .testsuite messageFailureSuite, .other lineBreak]
  after := []

theorem parseXmlToJson_messageFailure :
    ∃ results, parseXmlToJson messageFailureDocument.nodes = .ok results ∧
      List.Forall₂ SuiteListed messageFailureDocument.testsuites results := by
  have readable : messageFailureSuite.readable := by
    refine ⟨by decide, ?_⟩
    intro testcase member failure found
    obtain rfl := List.mem_singleton.mp member
    cases found
    exact ⟨timedOut, lit "timed out", rfl, rfl, by decide⟩
  refine (parseXmlToJson_iff messageFailureDocument).mpr fun testsuite member => ?_
  rw [List.mem_singleton.mp member]
  exact readable

end Clusterloader2

end Telescope
