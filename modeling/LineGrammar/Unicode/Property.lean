import LineGrammar.Unicode.Age
import LineGrammar.Unicode.Break

/-! # Properties of characters

A set of characters is asked for by the name of a property that they have, or by the name of a
property and that of a value.  The name of a value alone is enough for general categories and for
scripts.  The tables are those of Unicode 16. -/

namespace LineGrammar.Unicode

inductive Property where
  | trait (t : Trait)
  | generalCategory
  | script
  | scriptExtensions
  | age
  | graphemeClusterBreak
  | wordBreak
  | sentenceBreak
  | other
  deriving DecidableEq, Repr

namespace Property

/-- The properties with values that sets of characters are made of, and their names. -/
def names : List (Property × List String) :=
  [(.generalCategory, ["General_Category", "gc"]), (.script, ["Script", "sc"]),
   (.scriptExtensions, ["Script_Extensions", "scx"]), (.age, ["Age"]),
   (.graphemeClusterBreak, ["Grapheme_Cluster_Break", "GCB"]), (.wordBreak, ["Word_Break", "WB"]),
   (.sentenceBreak, ["Sentence_Break", "SB"])]

def otherNames : List String :=
  ["Bidi_Class", "bc", "Bidi_Mirroring_Glyph", "bmg", "Bidi_Paired_Bracket", "bpb",
   "Bidi_Paired_Bracket_Type", "bpt", "Block", "blk", "Canonical_Combining_Class", "ccc",
   "Case_Folding", "cf", "Changes_When_NFKC_Casefolded", "CWKCF", "Composition_Exclusion", "CE",
   "Decomposition_Mapping", "dm", "Decomposition_Type", "dt", "East_Asian_Width", "ea",
   "Equivalent_Unified_Ideograph", "EqUIdeo", "Expands_On_NFC", "XO_NFC", "Expands_On_NFD",
   "XO_NFD", "Expands_On_NFKC", "XO_NFKC", "Expands_On_NFKD", "XO_NFKD", "FC_NFKC_Closure",
   "FC_NFKC", "Full_Composition_Exclusion", "Comp_Ex", "Hangul_Syllable_Type", "hst",
   "Indic_Conjunct_Break", "InCB", "Indic_Positional_Category", "InPC", "Indic_Syllabic_Category",
   "InSC", "ISO_Comment", "isc", "Jamo_Short_Name", "JSN", "Joining_Group", "jg", "Joining_Type",
   "jt", "Line_Break", "lb", "Lowercase_Mapping", "lc", "Name", "na", "Name_Alias",
   "NFC_Quick_Check", "NFC_QC", "NFD_Quick_Check", "NFD_QC", "NFKC_Casefold", "NFKC_CF",
   "NFKC_Quick_Check", "NFKC_QC", "NFKC_Simple_Casefold", "NFKC_SCF", "NFKD_Quick_Check",
   "NFKD_QC", "Numeric_Type", "nt", "Numeric_Value", "nv", "Simple_Case_Folding", "scf", "sfc",
   "Simple_Lowercase_Mapping", "slc", "Simple_Titlecase_Mapping", "stc",
   "Simple_Uppercase_Mapping", "suc", "Titlecase_Mapping", "tc", "Unicode_1_Name", "na1",
   "Unicode_Radical_Stroke", "Uppercase_Mapping", "uc", "URS", "Vertical_Orientation", "vo",
   "kAccountingNumeric", "cjkAccountingNumeric", "kCompatibilityVariant",
   "cjkCompatibilityVariant", "kEH_Cat", "kEH_Desc", "kEH_HG", "kEH_IFAO", "kEH_JSesh",
   "kEH_NoMirror", "kEH_NoRotate", "kIICore", "cjkIICore", "kIRG_GSource", "cjkIRG_GSource",
   "kIRG_HSource", "cjkIRG_HSource", "kIRG_JSource", "cjkIRG_JSource", "kIRG_KPSource",
   "cjkIRG_KPSource", "kIRG_KSource", "cjkIRG_KSource", "kIRG_MSource", "cjkIRG_MSource",
   "kIRG_SSource", "cjkIRG_SSource", "kIRG_TSource", "cjkIRG_TSource", "kIRG_UKSource",
   "cjkIRG_UKSource", "kIRG_USource", "cjkIRG_USource", "kIRG_VSource", "cjkIRG_VSource",
   "kOtherNumeric", "cjkOtherNumeric", "kPrimaryNumeric", "cjkPrimaryNumeric", "kRSUnicode",
   "cjkRSUnicode"]

/-- The property with a name, which is given as it is compared. -/
def ofName? (name : Text) : Option Property :=
  ((names.find? fun p => isAmong name p.2).map fun p => p.1) <|>
    ((Trait.names.find? fun t => isAmong name t.2).map fun t => trait t.1) <|>
    (if isAmong name otherNames then some other else none)

end Property

/-- Why a set of characters does not exist. -/
inductive PropertyFault where
  | property
  | value
  deriving DecidableEq, Repr

/-- The set that a value stands for, if there is such a value.  A value that no character has is
none. -/
def valueMembers (members : Option CharSet) : Except PropertyFault CharSet :=
  match members with
  | none | some [] => .error .value
  | some set => .ok set

/-- The abbreviations that stand for a general category although a property has the same one. -/
def categoryAbbreviations : List Text := ["cf".toList, "sc".toList, "lc".toList]

/-- The characters with a trait, a general category or a script. -/
def membersNamed (name : Text) : Except PropertyFault CharSet :=
  let name := looseName name
  match if categoryAbbreviations.contains name then none else Property.ofName? name with
  | some (.trait t) => .ok t.members
  | some _ => .error .property
  | none =>
    match categoryMembers? name, findValue? name scripts with
    | some set, _ => valueMembers (some set)
    | none, some script => valueMembers (some script.members)
    | none, none => .error .property

/-- The characters for which a property has a value. -/
def membersWith (property value : Text) : Except PropertyFault CharSet :=
  let value := looseName value
  let among (values : List Value) := (findValue? value values).map Value.members
  match Property.ofName? (looseName property) with
  | none => .error .property
  | some p =>
    valueMembers <| match p with
      | .generalCategory => categoryMembers? value
      | .script => among scripts
      | .scriptExtensions => (findValue? value scripts).map Value.extension
      | .age => (Age.upTo? value Age.versions).map CharSet.unions
      | .graphemeClusterBreak => among graphemeBreak
      | .wordBreak => among Unicode.wordBreak
      | .sentenceBreak => among Unicode.sentenceBreak
      | .trait _ | .other => none

end LineGrammar.Unicode
