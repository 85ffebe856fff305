import RecordQuery.Text.CodeSet

/-!
Contract: the names of the properties of the Unicode 16.0 character database that have no
binary table here: enumerated, numeric, string and catalog properties, and the few binary
properties of normalisation.

Owns: `Text.propertyNames`, each property's names (short name first, then the long name, then
any alias), and `Text.propertyRows`, the same split into lists.

The binary properties with tables carry their own names (`Text.binaryProperties`); a name that is
in neither list names no property.
-/

set_option autoImplicit false

namespace RecordQuery

namespace Text

/-- The properties without a binary table: names joined by commas, entries by spaces. -/
def propertyNames : String :=
  String.join [
    "age,Age bc,Bidi_Class bmg,Bidi_Mirroring_Glyph bpb,Bidi_Paired_Bracket ",
    "bpt,Bidi_Paired_Bracket_Type blk,Block ccc,Canonical_Combining_Class CE,Composition_Exclusion ",
    "cf,Case_Folding cjkAccountingNumeric,kAccountingNumeric ",
    "cjkCompatibilityVariant,kCompatibilityVariant cjkIICore,kIICore cjkIRG_GSource,kIRG_GSource ",
    "cjkIRG_HSource,kIRG_HSource cjkIRG_JSource,kIRG_JSource cjkIRG_KPSource,kIRG_KPSource ",
    "cjkIRG_KSource,kIRG_KSource cjkIRG_MSource,kIRG_MSource cjkIRG_SSource,kIRG_SSource ",
    "cjkIRG_TSource,kIRG_TSource cjkIRG_UKSource,kIRG_UKSource cjkIRG_USource,kIRG_USource ",
    "cjkIRG_VSource,kIRG_VSource cjkOtherNumeric,kOtherNumeric cjkPrimaryNumeric,kPrimaryNumeric ",
    "cjkRSUnicode,kRSUnicode,Unicode_Radical_Stroke,URS Comp_Ex,Full_Composition_Exclusion ",
    "CWKCF,Changes_When_NFKC_Casefolded dm,Decomposition_Mapping dt,Decomposition_Type ",
    "ea,East_Asian_Width EqUIdeo,Equivalent_Unified_Ideograph FC_NFKC,FC_NFKC_Closure ",
    "gc,General_Category GCB,Grapheme_Cluster_Break hst,Hangul_Syllable_Type ",
    "InCB,Indic_Conjunct_Break InPC,Indic_Positional_Category InSC,Indic_Syllabic_Category ",
    "isc,ISO_Comment jg,Joining_Group JSN,Jamo_Short_Name jt,Joining_Type kEH_Cat,kEH_Cat ",
    "kEH_Desc,kEH_Desc kEH_HG,kEH_HG kEH_IFAO,kEH_IFAO kEH_JSesh,kEH_JSesh lb,Line_Break ",
    "lc,Lowercase_Mapping na,Name na1,Unicode_1_Name Name_Alias,Name_Alias NFC_QC,NFC_Quick_Check ",
    "NFD_QC,NFD_Quick_Check NFKC_CF,NFKC_Casefold NFKC_QC,NFKC_Quick_Check ",
    "NFKC_SCF,NFKC_Simple_Casefold NFKD_QC,NFKD_Quick_Check nt,Numeric_Type nv,Numeric_Value ",
    "SB,Sentence_Break sc,Script scf,Simple_Case_Folding,sfc scx,Script_Extensions ",
    "slc,Simple_Lowercase_Mapping stc,Simple_Titlecase_Mapping suc,Simple_Uppercase_Mapping ",
    "tc,Titlecase_Mapping uc,Uppercase_Mapping vo,Vertical_Orientation WB,Word_Break ",
    "XO_NFC,Expands_On_NFC XO_NFD,Expands_On_NFD XO_NFKC,Expands_On_NFKC XO_NFKD,Expands_On_NFKD"]

/-- The names of each property, short name first and long name second. -/
def propertyRows : List (List String) :=
  ((propertyNames.splitOn " ").filter (fun w => !w.isEmpty)).map (·.splitOn ",")

end Text

end RecordQuery
