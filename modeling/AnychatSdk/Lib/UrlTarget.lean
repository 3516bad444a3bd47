import AnychatSdk.Lib.PercentCode
import Mathlib.Data.List.TakeWhile

/-!
# What a URL names

A URL without scheme and authority is read as a server reads it: the fragment is
cut off, then the query, then the path is split into segments and the query into
parameters, and every part is decoded on its own.  Whoever puts a name into such
a URL as it is gets it back as a segment only if it has no separator and no
percent sign.
-/

namespace UrlTarget

open PercentCode

def slash : UInt8 := 47

def question : UInt8 := 63

def hash : UInt8 := 35

def ampersand : UInt8 := 38

def equals : UInt8 := 61

/-! ## Reading -/

def path (url : List UInt8) : List UInt8 :=
  url.takeWhile fun byte => byte ≠ question ∧ byte ≠ hash

def query (url : List UInt8) : List UInt8 :=
  ((url.takeWhile (· ≠ hash)).dropWhile (· ≠ question)).drop 1

def fragment (url : List UInt8) : List UInt8 :=
  (url.dropWhile (· ≠ hash)).drop 1

/-- The name and the value of one parameter. -/
def splitParameter (text : List UInt8) : List UInt8 × List UInt8 :=
  (text.takeWhile (· ≠ equals), (text.dropWhile (· ≠ equals)).drop 1)

def decodeParameter? (parameter : List UInt8 × List UInt8) :
    Option (List UInt8 × List UInt8) := do
  let name ← decode? parameter.1
  let value ← decode? parameter.2
  pure (name, value)

def parameters? (url : List UInt8) : Option (List (List UInt8 × List UInt8)) :=
  if query url = [] then some []
  else (((query url).splitOn ampersand).map splitParameter).mapM decodeParameter?

def segments? (url : List UInt8) : Option (List (List UInt8)) :=
  ((path url).splitOn slash).mapM decode?

/-- The value of the first parameter with the name. -/
def parameter? (name url : List UInt8) : Option (List UInt8) :=
  (parameters? url).bind (List.lookup name)

/-- The parts of a URL, decoded. -/
structure Parts where
  segments : List (List UInt8)
  parameters : List (List UInt8 × List UInt8)
  fragment : List UInt8

def read? (url : List UInt8) : Option Parts := do
  let segments ← segments? url
  let parameters ← parameters? url
  let fragment ← decode? (fragment url)
  pure ⟨segments, parameters, fragment⟩

/-! ## Printing -/

def printParameter (parameter : List UInt8 × List UInt8) : List UInt8 :=
  parameter.1 ++ equals :: parameter.2

/-- Segments and parameters as they are. -/
def print (segments : List (List UInt8)) (parameters : List (List UInt8 × List UInt8)) :
    List UInt8 :=
  [slash].intercalate segments ++
    if parameters = [] then []
    else question :: [ampersand].intercalate (parameters.map printParameter)

/-- No separator and no percent sign. -/
def Plain (name : List UInt8) : Prop :=
  slash ∉ name ∧ question ∉ name ∧ hash ∉ name ∧ percent ∉ name

instance (name : List UInt8) : Decidable (Plain name) :=
  inferInstanceAs (Decidable (_ ∧ _))

/-- A text that may stand in a path. -/
def InPath (text : List UInt8) : Prop :=
  question ∉ text ∧ hash ∉ text

/-- A parameter that may stand in a query. -/
structure InQuery (parameter : List UInt8 × List UInt8) : Prop where
  nameEnds : equals ∉ parameter.1
  nameIsOne : ampersand ∉ parameter.1
  valueIsOne : ampersand ∉ parameter.2
  nameNoHash : hash ∉ parameter.1
  valueNoHash : hash ∉ parameter.2

/-! ## The three parts -/

theorem path_append {front : List UInt8} (inPath : InPath front) (rest : List UInt8) :
    path (front ++ rest) = front ++ path rest := by
  refine List.takeWhile_append_of_pos ?_
  intro byte member
  have notQuestion : byte ≠ question := fun same => inPath.1 (same ▸ member)
  have notHash : byte ≠ hash := fun same => inPath.2 (same ▸ member)
  simp [notQuestion, notHash]

theorem query_append {front : List UInt8} (inPath : InPath front) (rest : List UInt8) :
    query (front ++ rest) = query rest := by
  have noHash : ∀ byte ∈ front, decide (byte ≠ hash) = true :=
    fun byte member => decide_eq_true fun same => inPath.2 (same ▸ member)
  have noQuestion : ∀ byte ∈ front, decide (byte ≠ question) = true :=
    fun byte member => decide_eq_true fun same => inPath.1 (same ▸ member)
  rw [query, List.takeWhile_append_of_pos noHash, List.dropWhile_append_of_pos noQuestion]
  rfl

theorem fragment_append {front : List UInt8} (noHash : hash ∉ front) (rest : List UInt8) :
    fragment (front ++ rest) = fragment rest := by
  have different : ∀ byte ∈ front, decide (byte ≠ hash) = true :=
    fun byte member => decide_eq_true fun same => noHash (same ▸ member)
  rw [fragment, List.dropWhile_append_of_pos different]
  rfl

theorem query_question (text : List UInt8) :
    query (question :: text) = text.takeWhile (· ≠ hash) := by
  have noHash : decide (question ≠ hash) = true := by decide
  have isQuestion : decide (question ≠ question) = false := by decide
  rw [query, List.takeWhile_cons, if_pos noHash, List.dropWhile_cons, if_neg (by simp)]
  rfl

theorem path_question (text : List UInt8) : path (question :: text) = [] := by
  rw [path, List.takeWhile_cons]
  exact if_neg (by simp)

theorem takeWhile_eq_self {byte : UInt8} {text : List UInt8} (absent : byte ∉ text) :
    text.takeWhile (· ≠ byte) = text :=
  List.takeWhile_eq_self_iff.mpr fun _ member =>
    decide_eq_true fun same => absent (same ▸ member)

/-! ## Reading what is printed -/

theorem mem_intercalate {separator byte : UInt8} {texts : List (List UInt8)}
    (member : byte ∈ [separator].intercalate texts) :
    byte = separator ∨ ∃ text ∈ texts, byte ∈ text := by
  induction texts with
  | nil => cases member
  | cons text rest ih =>
      by_cases last : rest = []
      · rw [last, List.intercalate_singleton] at member
        exact Or.inr ⟨text, List.mem_cons_self, member⟩
      · rw [List.intercalate_cons_of_ne_nil last] at member
        simp only [List.mem_append, List.mem_singleton] at member
        rcases member with (inText | isSeparator) | later
        · exact Or.inr ⟨text, List.mem_cons_self, inText⟩
        · exact Or.inl isSeparator
        · rcases ih later with isSeparator | ⟨other, listed, inOther⟩
          · exact Or.inl isSeparator
          · exact Or.inr ⟨other, List.mem_cons_of_mem text listed, inOther⟩

theorem inPath_intercalate {segments : List (List UInt8)}
    (inPath : ∀ segment ∈ segments, InPath segment) :
    InPath ([slash].intercalate segments) := by
  constructor
  · intro member
    rcases mem_intercalate member with same | ⟨segment, listed, inSegment⟩
    · exact absurd same (by decide)
    · exact (inPath segment listed).1 inSegment
  · intro member
    rcases mem_intercalate member with same | ⟨segment, listed, inSegment⟩
    · exact absurd same (by decide)
    · exact (inPath segment listed).2 inSegment

theorem InQuery.not_mem_print {parameter : List UInt8 × List UInt8}
    (inQuery : InQuery parameter) :
    ampersand ∉ printParameter parameter ∧ hash ∉ printParameter parameter := by
  have ampersandNotEquals : ampersand ≠ equals := by decide
  have hashNotEquals : hash ≠ equals := by decide
  constructor
  · simp [printParameter, inQuery.nameIsOne, inQuery.valueIsOne, ampersandNotEquals]
  · simp [printParameter, inQuery.nameNoHash, inQuery.valueNoHash, hashNotEquals]

theorem hash_not_mem_query {parameters : List (List UInt8 × List UInt8)}
    (inQuery : ∀ parameter ∈ parameters, InQuery parameter) :
    hash ∉ [ampersand].intercalate (parameters.map printParameter) := by
  intro member
  rcases mem_intercalate member with same | ⟨text, listed, inText⟩
  · exact absurd same (by decide)
  · rcases List.mem_map.mp listed with ⟨parameter, parameterListed, rfl⟩
    exact (inQuery parameter parameterListed).not_mem_print.2 inText

/-- A printed parameter is split where it was joined. -/
theorem splitParameter_printParameter {parameter : List UInt8 × List UInt8}
    (nameEnds : equals ∉ parameter.1) : splitParameter (printParameter parameter) = parameter := by
  have different : ∀ byte ∈ parameter.1, decide (byte ≠ equals) = true :=
    fun byte member => decide_eq_true fun same => nameEnds (same ▸ member)
  have name : (printParameter parameter).takeWhile (· ≠ equals) = parameter.1 := by
    rw [printParameter, List.takeWhile_append_of_pos different, List.takeWhile_cons]
    simp
  have value : ((printParameter parameter).dropWhile (· ≠ equals)).drop 1 = parameter.2 := by
    rw [printParameter, List.dropWhile_append_of_pos different, List.dropWhile_cons]
    simp
  rw [splitParameter, name, value]

section Print

variable {segments decodedSegments : List (List UInt8)}
  {parameters decodedParameters : List (List UInt8 × List UInt8)}

theorem path_print (inPath : ∀ segment ∈ segments, InPath segment) :
    path (print segments parameters) = [slash].intercalate segments := by
  rw [print, path_append (inPath_intercalate inPath)]
  split
  · exact List.append_nil _
  · rw [path_question, List.append_nil]

theorem query_print (inPath : ∀ segment ∈ segments, InPath segment)
    (inQuery : ∀ parameter ∈ parameters, InQuery parameter) :
    query (print segments parameters) =
      [ampersand].intercalate (parameters.map printParameter) := by
  rw [print, query_append (inPath_intercalate inPath)]
  split
  · next none =>
      rw [none]
      rfl
  · rw [query_question, takeWhile_eq_self (hash_not_mem_query inQuery)]

theorem fragment_print (inPath : ∀ segment ∈ segments, InPath segment)
    (inQuery : ∀ parameter ∈ parameters, InQuery parameter) :
    fragment (print segments parameters) = [] := by
  rw [print, fragment_append (inPath_intercalate inPath).2]
  split
  · rfl
  · have noHash : ∀ byte ∈ question :: [ampersand].intercalate (parameters.map printParameter),
        decide (byte ≠ hash) = true := by
      intro byte member
      refine decide_eq_true ?_
      rintro rfl
      rcases List.mem_cons.mp member with same | later
      · exact absurd same (by decide)
      · exact hash_not_mem_query inQuery later
    rw [fragment, List.dropWhile_eq_nil_iff.mpr noHash]
    rfl

theorem segments?_print (nonempty : segments ≠ [])
    (single : ∀ segment ∈ segments, slash ∉ segment)
    (inPath : ∀ segment ∈ segments, InPath segment) :
    segments? (print segments parameters) = segments.mapM decode? := by
  rw [segments?, path_print inPath, List.splitOn_intercalate slash single nonempty]

theorem parameters?_print (inPath : ∀ segment ∈ segments, InPath segment)
    (inQuery : ∀ parameter ∈ parameters, InQuery parameter) :
    parameters? (print segments parameters) = parameters.mapM decodeParameter? := by
  rw [parameters?, query_print inPath inQuery]
  cases parameters with
  | nil => rfl
  | cons first rest =>
      have split : ([ampersand].intercalate ((first :: rest).map printParameter)).splitOn
          ampersand = (first :: rest).map printParameter := by
        refine List.splitOn_intercalate ampersand ?_ (by simp)
        intro text listed
        rcases List.mem_map.mp listed with ⟨parameter, parameterListed, rfl⟩
        exact (inQuery parameter parameterListed).not_mem_print.1
      have someQuery : [ampersand].intercalate ((first :: rest).map printParameter) ≠ [] := by
        intro empty
        rw [empty, List.splitOn_nil, List.map_cons] at split
        have noText : [] = first.1 ++ equals :: first.2 := (List.cons.inj split).1
        exact absurd noText.symm (List.append_ne_nil_of_right_ne_nil _ (List.cons_ne_nil _ _))
      have apart : ∀ parameter ∈ first :: rest,
          (splitParameter ∘ printParameter) parameter = id parameter :=
        fun parameter listed => splitParameter_printParameter (inQuery parameter listed).nameEnds
      have joined : ((first :: rest).map printParameter).map splitParameter = first :: rest := by
        rw [List.map_map, List.map_congr_left apart, List.map_id]
      rw [if_neg someQuery, split, joined]

/-- What is printed is read back, decoded. -/
theorem read?_print (nonempty : segments ≠ [])
    (single : ∀ segment ∈ segments, slash ∉ segment)
    (inPath : ∀ segment ∈ segments, InPath segment)
    (inQuery : ∀ parameter ∈ parameters, InQuery parameter)
    (segmentsDecode : segments.mapM decode? = some decodedSegments)
    (parametersDecode : parameters.mapM decodeParameter? = some decodedParameters) :
    read? (print segments parameters) = some ⟨decodedSegments, decodedParameters, []⟩ := by
  rw [read?, segments?_print nonempty single inPath, parameters?_print inPath inQuery,
    fragment_print inPath inQuery, segmentsDecode, parametersDecode]
  rfl

end Print

/-! ## Names that are put in as they are -/

theorem mem_of_mapM {α β : Type} {f : α → Option β} {items : List α} {results : List β}
    (mapped : items.mapM f = some results) {result : β} (member : result ∈ results) :
    ∃ item ∈ items, f item = some result := by
  induction items generalizing results with
  | nil =>
      obtain rfl := Option.some.inj mapped
      cases member
  | cons item rest ih =>
      simp only [List.mapM_cons, Option.bind_eq_bind, Option.bind_eq_some_iff] at mapped
      rcases mapped with ⟨first, firstResult, others, otherResults, whole⟩
      obtain rfl := Option.some.inj whole
      rcases List.mem_cons.mp member with rfl | later
      · exact ⟨item, List.mem_cons_self, firstResult⟩
      · rcases ih otherResults later with ⟨other, listed, otherResult⟩
        exact ⟨other, List.mem_cons_of_mem item listed, otherResult⟩

/-- A piece has no separator, and nothing that the text does not have. -/
theorem mem_splitOn {separator : UInt8} {text piece : List UInt8}
    (member : piece ∈ text.splitOn separator) :
    separator ∉ piece ∧ (∀ byte ∈ piece, byte ∈ text) ∧ piece.length ≤ text.length := by
  induction text generalizing piece with
  | nil =>
      obtain rfl := List.mem_singleton.mp member
      exact ⟨List.not_mem_nil, fun byte absent => absurd absent List.not_mem_nil, Nat.le_refl 0⟩
  | cons byte rest ih =>
      rw [List.splitOn_cons_eq_if_modifyHead] at member
      split at member
      · rcases List.mem_cons.mp member with rfl | later
        · exact ⟨List.not_mem_nil, fun byte absent => absurd absent List.not_mem_nil,
            Nat.zero_le _⟩
        · rcases ih later with ⟨single, within, short⟩
          exact ⟨single, fun other inPiece => List.mem_cons_of_mem byte (within other inPiece),
            Nat.le_succ_of_le short⟩
      · next different =>
          cases pieces : rest.splitOn separator with
          | nil => exact absurd pieces (List.splitOn_ne_nil separator rest)
          | cons head tail =>
              rw [pieces] at member ih
              rcases List.mem_cons.mp member with rfl | later
              · rcases ih List.mem_cons_self with ⟨single, within, short⟩
                have notSeparator : separator ≠ byte := by
                  rintro rfl
                  exact different (beq_self_eq_true separator)
                constructor
                · simp [single, notSeparator]
                · constructor
                  · intro other inPiece
                    rcases List.mem_cons.mp inPiece with rfl | inHead
                    · exact List.mem_cons_self
                    · exact List.mem_cons_of_mem byte (within other inHead)
                  · exact Nat.succ_le_succ short
              · rcases ih (List.mem_cons_of_mem head later) with ⟨single, within, short⟩
                exact ⟨single, fun other inPiece =>
                  List.mem_cons_of_mem byte (within other inPiece), Nat.le_succ_of_le short⟩

/-- A piece no longer than the name that it decodes to is the name, without a percent
sign. -/
theorem eq_of_decode? {piece name : List UInt8} (decoded : decode? piece = some name)
    (short : piece.length ≤ name.length) : piece = name ∧ percent ∉ name := by
  have lengths := length_decode? decoded
  have noPercent : percent ∉ piece := fun member => by
    have shorter := lengths.2 member
    omega
  have same := (decode?_eq_self_iff.mpr noPercent).symm.trans decoded
  obtain rfl := Option.some.inj same
  exact ⟨rfl, noPercent⟩

/-- Pieces of a path without percent signs decode to plain names only. -/
theorem plain_of_piece {text piece name : List UInt8} (inPath : InPath text)
    (noPercent : percent ∉ text) (member : piece ∈ text.splitOn slash)
    (decoded : decode? piece = some name) : Plain name := by
  rcases mem_splitOn member with ⟨single, within, _⟩
  have plainPiece : percent ∉ piece := fun inPiece => noPercent (within percent inPiece)
  have same := (decode?_eq_self_iff.mpr plainPiece).symm.trans decoded
  obtain rfl := Option.some.inj same
  exact ⟨single, fun inPiece => inPath.1 (within question inPiece),
    fun inPiece => inPath.2 (within hash inPiece), plainPiece⟩

theorem inPath_path (text : List UInt8) : InPath (path text) := by
  constructor
  · intro member
    have kept := List.mem_takeWhile_imp member
    simp at kept
  · intro member
    have kept := List.mem_takeWhile_imp member
    simp at kept

/-- A name that has to end early gives a shorter path. -/
theorem length_path_append_lt {name : List UInt8} (notInPath : ¬InPath name)
    (back : List UInt8) : (path (name ++ back)).length < name.length := by
  have stops : (path name).length ≠ name.length := by
    intro whole
    have same : path name = name := (List.takeWhile_prefix _).eq_of_length whole
    exact notInPath (same ▸ inPath_path name)
  have atMost : (path name).length ≤ name.length := (List.takeWhile_prefix _).length_le
  rw [path, List.takeWhile_append,
    if_neg (show ¬(name.takeWhile _).length = name.length from stops)]
  exact Nat.lt_of_le_of_ne atMost stops

theorem path_slash (more : List UInt8) : path (slash :: more) = slash :: path more := by
  have inPath : InPath [slash] := by
    constructor
    · decide
    · decide
  exact path_append inPath more

/-- A name that stands in a path as it is, and comes out again as a segment, is plain. -/
theorem plain_of_mem_segments {front name back : List UInt8} (frontInPath : InPath front)
    (frontPlain : percent ∉ front) (backPlain : percent ∉ back)
    (backStarts : back = [] ∨ back.head? = some slash ∨ back.head? = some question)
    {segments : List (List UInt8)}
    (reads : segments? (front ++ slash :: (name ++ back)) = some segments)
    (member : name ∈ segments) : Plain name := by
  have slashed : InPath (front ++ [slash]) := by
    constructor
    · simpa [InPath] using ⟨frontInPath.1, (by decide : question ≠ slash)⟩
    · simpa [InPath] using ⟨frontInPath.2, (by decide : hash ≠ slash)⟩
  have whole : path (front ++ slash :: (name ++ back)) = front ++ slash :: path (name ++ back) := by
    have apart : front ++ slash :: (name ++ back) = front ++ [slash] ++ (name ++ back) := by simp
    rw [apart, path_append slashed, List.append_assoc]
    rfl
  rw [segments?, whole, List.splitOn_append_cons_self] at reads
  rcases mem_of_mapM reads member with ⟨piece, listed, decoded⟩
  rcases List.mem_append.mp listed with inFront | afterFront
  · exact plain_of_piece frontInPath frontPlain inFront decoded
  · have long := (length_decode? decoded).1
    by_cases inPath : InPath name
    · have nameAlone : piece ∈ name.splitOn slash → Plain name := by
        intro inName
        rcases mem_splitOn inName with ⟨single, _, short⟩
        rcases eq_of_decode? decoded short with ⟨rfl, noPercent⟩
        exact ⟨single, inPath.1, inPath.2, noPercent⟩
      rw [path_append inPath] at afterFront
      cases back with
      | nil =>
          rw [show path [] = [] from rfl, List.append_nil] at afterFront
          exact nameAlone afterFront
      | cons first more =>
          rcases backStarts with empty | isSlash | isQuestion
          · exact absurd empty (List.cons_ne_nil first more)
          · obtain rfl := Option.some.inj isSlash
            rw [path_slash, List.splitOn_append_cons_self] at afterFront
            rcases List.mem_append.mp afterFront with inName | inBack
            · exact nameAlone inName
            · have noPercent : percent ∉ path more := fun inPathMore =>
                backPlain (List.mem_cons_of_mem slash
                  ((List.takeWhile_prefix _).subset inPathMore))
              exact plain_of_piece (inPath_path more) noPercent inBack decoded
          · obtain rfl := Option.some.inj isQuestion
            rw [path_question, List.append_nil] at afterFront
            exact nameAlone afterFront
    · have short := (mem_splitOn afterFront).2.2
      have cut := length_path_append_lt inPath back
      omega

/-! ## Parts without percent signs -/

theorem mapM_decode?_of_plain {texts : List (List UInt8)}
    (noPercent : ∀ text ∈ texts, percent ∉ text) : texts.mapM decode? = some texts := by
  induction texts with
  | nil => rfl
  | cons text rest ih =>
      rw [List.mapM_cons, decode?_eq_self_iff.mpr (noPercent text List.mem_cons_self),
        ih fun other listed => noPercent other (List.mem_cons_of_mem text listed)]
      rfl

theorem mapM_decodeParameter?_of_plain {parameters : List (List UInt8 × List UInt8)}
    (noPercent : ∀ parameter ∈ parameters, percent ∉ parameter.1 ∧ percent ∉ parameter.2) :
    parameters.mapM decodeParameter? = some parameters := by
  induction parameters with
  | nil => rfl
  | cons parameter rest ih =>
      rcases noPercent parameter List.mem_cons_self with ⟨name, value⟩
      rw [List.mapM_cons, decodeParameter?, decode?_eq_self_iff.mpr name,
        decode?_eq_self_iff.mpr value,
        ih fun other listed => noPercent other (List.mem_cons_of_mem parameter listed)]
      rfl

/-! ## A value that is put in as it is -/

/-- The first piece of a query that begins with the parameter: the value ends at the first
separator or with the query. -/
theorem splitOn_query_parameter {name : List UInt8} (nameIsOne : ampersand ∉ name)
    (nameNoHash : hash ∉ name) (value : List UInt8) :
    ∃ cut others, ((name ++ equals :: value).takeWhile (· ≠ hash)).splitOn ampersand =
        (name ++ equals :: cut) :: others ∧
      cut <+: value ∧ (cut = value → ampersand ∉ value ∧ hash ∉ value) ∧
      (ampersand ∉ value → hash ∉ value → cut = value ∧ others = []) := by
  have beforeHash : (name ++ equals :: value).takeWhile (· ≠ hash) =
      name ++ equals :: value.takeWhile (· ≠ hash) := by
    have different : ∀ byte ∈ name, decide (byte ≠ hash) = true :=
      fun byte member => decide_eq_true fun same => nameNoHash (same ▸ member)
    have notHash : decide (equals ≠ hash) = true := by decide
    rw [List.takeWhile_append_of_pos different, List.takeWhile_cons, if_pos notHash]
  have ends : hash ∉ value.takeWhile (· ≠ hash) := by
    intro member
    have kept := List.mem_takeWhile_imp member
    simp at kept
  have isPrefix : value.takeWhile (· ≠ hash) <+: value := List.takeWhile_prefix _
  have notEquals : ampersand ≠ equals := by decide
  rw [beforeHash]
  by_cases joined : ampersand ∈ value.takeWhile (· ≠ hash)
  · rcases List.eq_append_cons_of_mem joined with ⟨cut, more, split, single⟩
    have apart : name ++ equals :: (cut ++ ampersand :: more) =
        name ++ equals :: cut ++ ampersand :: more := by simp
    have first : ampersand ∉ name ++ equals :: cut := by
      simp [nameIsOne, notEquals, single]
    have lengths := congrArg List.length split
    rw [List.length_append, List.length_cons] at lengths
    have inValue : cut <+: value := by
      rw [split] at isPrefix
      exact (List.prefix_append cut _).trans isPrefix
    refine ⟨cut, more.splitOn ampersand, ?_, inValue, ?_, ?_⟩
    · rw [split, apart, List.splitOn_append_cons_self_of_not_mem first]
    · rintro rfl
      have shorter := isPrefix.length_le
      omega
    · intro noAmpersand _
      exact absurd ((List.takeWhile_prefix _).subset joined) noAmpersand
  · have first : ampersand ∉ name ++ equals :: value.takeWhile (· ≠ hash) := by
      simp only [List.mem_append, List.mem_cons, not_or]
      exact ⟨nameIsOne, notEquals, joined⟩
    refine ⟨value.takeWhile (· ≠ hash), [], List.splitOn_eq_singleton first, isPrefix, ?_, ?_⟩
    · intro whole
      rw [whole] at joined ends
      exact ⟨joined, ends⟩
    · intro _ noHash
      exact ⟨takeWhile_eq_self noHash, rfl⟩

/-- What is put in as it is comes out as a value that is no shorter exactly if it is this
value and has no separator and no percent sign. -/
theorem parameter?_eq_some_iff {front name written value : List UInt8} (inPath : InPath front)
    (nameEnds : equals ∉ name) (nameIsOne : ampersand ∉ name) (nameNoHash : hash ∉ name)
    (namePlain : percent ∉ name) (noShorter : written.length ≤ value.length) :
    parameter? name (front ++ question :: (name ++ equals :: written)) = some value ↔
      written = value ∧ ampersand ∉ value ∧ hash ∉ value ∧ percent ∉ value := by
  rcases splitOn_query_parameter nameIsOne nameNoHash written with
    ⟨cut, others, pieces, isPrefix, whole, single⟩
  have someQuery : (name ++ equals :: written).takeWhile (· ≠ hash) ≠ [] := by
    intro empty
    rw [empty, List.splitOn_nil] at pieces
    have noText : [] = name ++ equals :: cut := (List.cons.inj pieces).1
    exact absurd noText.symm (List.append_ne_nil_of_right_ne_nil _ (List.cons_ne_nil _ _))
  have first : splitParameter (name ++ equals :: cut) = (name, cut) :=
    @splitParameter_printParameter (name, cut) nameEnds
  have read : parameters? (front ++ question :: (name ++ equals :: written)) =
      ((name, cut) :: others.map splitParameter).mapM decodeParameter? := by
    rw [parameters?, query_append inPath, query_question, if_neg someQuery, pieces,
      List.map_cons, first]
  rw [parameter?, read, List.mapM_cons, decodeParameter?, decode?_eq_self_iff.mpr namePlain]
  constructor
  · intro found
    cases decoded : decode? cut with
    | none => simp [decoded] at found
    | some text =>
        cases rest : (others.map splitParameter).mapM decodeParameter? with
        | none => simp [decoded, rest] at found
        | some parameters =>
            have sameValue : text = value := by simpa [decoded, rest] using found
            rw [sameValue] at decoded
            rcases eq_of_decode? decoded (isPrefix.length_le.trans noShorter) with
              ⟨rfl, noPercent⟩
            -- The piece is as long as the value, so nothing was cut off what was written.
            obtain rfl := isPrefix.eq_of_length_le noShorter
            rcases whole rfl with ⟨noAmpersand, noHash⟩
            exact ⟨rfl, noAmpersand, noHash, noPercent⟩
  · rintro ⟨rfl, noAmpersand, noHash, noPercent⟩
    rcases single noAmpersand noHash with ⟨rfl, rfl⟩
    rw [decode?_eq_self_iff.mpr noPercent]
    simp

/-- A value put in as it is comes out again exactly if it has no separator and no percent
sign. -/
theorem parameter?_eq_value_iff {front name : List UInt8} (inPath : InPath front)
    (nameEnds : equals ∉ name) (nameIsOne : ampersand ∉ name) (nameNoHash : hash ∉ name)
    (namePlain : percent ∉ name) (value : List UInt8) :
    parameter? name (front ++ question :: (name ++ equals :: value)) = some value ↔
      ampersand ∉ value ∧ hash ∉ value ∧ percent ∉ value :=
  (parameter?_eq_some_iff inPath nameEnds nameIsOne nameNoHash namePlain (Nat.le_refl _)).trans
    (and_iff_right rfl)

end UrlTarget
