import DocPreview.Highlight.Language.Data
import DocPreview.Highlight.Language.Html
import DocPreview.Highlight.Language.Ruby

/-!
# The grammars of pages with code in them

Basic and Ruby on Rails, and the languages of pages that hold code in them.
-/

namespace DocPreview.Highlight.Language

open Grammar

/-! ### Basic, and HTML with Basic in it

Case does not count. After a condition, statements on the same line belong to it, and nothing closes
them but the end of the line.
-/

section

namespace Asp

/-- The functions that the host calls. -/
def events : String :=
  r"(?i)\b(?:Application_OnEnd|Application_OnStart|Session_OnEnd|Session_OnStart|" ++
    r"OnTransactionAbort|OnTransactionCommit|Class_Initialize|Class_Terminate)\b"

/-- The methods of the objects of the host. -/
def methods : String :=
  r"(?i)\b(?:Lock|Unlock|SetAbort|SetComplete|BinaryRead|AddHeader|AppendToLog|BinaryWrite|" ++
    r"Clear|End|Flush|Redirect|Write|CreateObject|HTMLEncode|MapPath|URLEncode|Abandon)\b"

/-- The functions of the language. -/
def functions : String :=
  r"(?i)\b(?:Array|Asc|Atn|CBool|CByte|CCur|CDate|CDbl|Chr|CInt|CLng|Cos|CreateObject|CSng|" ++
    r"CStr|Date|DateAdd|DateDiff|DatePart|DateSerial|DateValue|Day|Escape|Eval|Exists|Exp|" ++
    r"Filter|Fix|FormatCurrency|FormatDateTime|FormatNumber|FormatPercent|GetLocale|GetObject|" ++
    r"GetRef|Hex|Hour|InputBox|InStr|InStrRev|Int|IsArray|IsDate|IsEmpty|IsNull|IsNumeric|" ++
    r"IsObject|Item|Items|Join|Keys|LBound|LCase|Left|Len|LoadPicture|Log|LTrim|Mid|Minute|" ++
    r"Month|MonthName|MsgBox|Now|Oct|Remove|RemoveAll|Replace|RGB|Right|Rnd|Round|RTrim|" ++
    r"ScriptEngine|Second|SetLocale|Sgn|Sin|Space|Split|Sqr|StrComp|String|StrReverse|Tan|" ++
    r"Time|Timer|TimeSerial|TimeValue|Trim|TypeName|UBound|UCase|Unescape|VarType|Weekday|" ++
    r"WeekdayName|Year)\b"

/-- The contexts of statements. -/
def statements : Grammar := [
  ("statements", context [
    use "comments",
    push (r"(?i)\b(?:(?:Public|Private)\s+(?:Default\s+)?)?(?:Sub|Function|" ++
      r"Property\s+(?:Get|Let|Set))\b") "storage.type.function" ["parameters", "function name"],
    push r"(?i)\bClass\b" "storage.type.class" ["class name"],
    mark r"(?i)\bEnd\s+(?:Sub|Function|Class|Property)\b" "storage.type.function.end",
    mark r"(?i)\b(?:Dim|ReDim(?:\s+Preserve)?|Const)\b" "storage.modifier",
    mark r"(?i)\b(?:Public|Private|Default)\b" "storage.modifier",
    mark r"(?i)\bEnd\s+(?:If|Select|With)\b" "keyword.control.flow",
    push r"(?i)\bThen\b(?!\s*(?:$|'|%>|rem\b))" "keyword.control.flow" ["rest of line"],
    mark (r"(?i)\b(?:If|Then|ElseIf|Else|For\s+Each|For|Each|In|To|Step|Next|Do|Loop|While|" ++
      r"Wend|Until|Select\s+Case|Case|Exit\s+(?:Do|For|Function|Property|Sub)|With|Call|" ++
      r"On\s+Error\s+(?:Resume\s+Next|GoTo\s+0)|Option\s+Explicit|Randomize|Erase|Stop)\b")
      "keyword.control.flow",
    mark r"(?i)\b(?:Set|Let)\b" "keyword.other.set",
    use "expressions"]),
  ("rest of line", context [
    pop r"(?=\n|%>)" "",
    mark r"(?i)\bEnd\b" "",
    use "statements"]),
  ("class name", context [pop r"\b[a-zA-Z_]\w*" "entity.name.class", popElse]),
  ("function name", context [
    pop events "support.function.event",
    pop r"\b[a-zA-Z_]\w*" "entity.name.function",
    popElse]),
  ("parameters", context [
    set r"\(" "punctuation.section.group.begin" ["parameter list"],
    pop r"\n" "",
    popElse]),
  ("parameter list", context [
    pop r"\)" "punctuation.section.group.end",
    mark r"(?i)\b(?:ByVal|ByRef)\b" "storage.modifier.reference",
    mark r"\b[a-zA-Z_]\w*" "variable.parameter.function",
    mark r"," "punctuation.separator.parameter",
    pop r"\n" ""])]

/-- The contexts of expressions. -/
def expressions : Grammar := [
  ("comments", context [
    mark r"(?:^\s*|\s|(?<=:))(?i:rem)\b.*?(?=%>|$)" "comment.line.rem",
    push r"'" "punctuation.definition.comment" ["comment"]]),
  ("comment", context [
    pop r"\n|(?=%>)" ""] |>.whole "comment.line.apostrophe"),
  ("expressions", context [
    push r"\x22" "punctuation.definition.string.begin" ["text"],
    mark r"(?i)\b(?:And|Or|Not|Xor|Eqv|Imp|Mod|Is)\b" "keyword.operator.logical",
    mark r"(?i)\bNew\b" "keyword.other.new",
    mark r"(?i)\b(?:Empty|False|Nothing|Null|True)\b" "storage.type",
    mark r"(?i)\bMe\b" "variable.language",
    push r"\." "punctuation.accessor.dot" ["member"],
    mark (r"(?i)\b(?:Application|ObjectContext|Request|Response|Server|Session|Err|ASPError)\b")
      "support.class",
    mark functions "support.function.vb",
    mark r"(?i)\bvb[a-z]\w*\b" "support.type.vb",
    mark r"(?i)&H\h+|\b\d+(?:\.\d+)?(?:E[-+]?\d+)?|\.\d+" "constant.numeric",
    mark r"#[^#\n]+#" "constant.numeric.date",
    mark r"<>|<=|>=|[-+*/&=<>\\^]" "keyword.operator",
    mark r"\b[a-zA-Z_]\w*\b" "variable.other"]),
  ("member", context [
    pop (r"(?i)\b(?:Contents|StaticObjects|ClientCertificate|Cookies|Form|QueryString|" ++
      r"ServerVariables)\b") "support.class.collection",
    pop (r"(?i)\b(?:TotalBytes|Buffer|CacheControl|Charset|ContentType|Expires|" ++
      r"ExpiresAbsolute|IsClientConnected|PICS|Status|ScriptTimeout|CodePage|LCID|SessionID|" ++
      r"Timeout)\b") "support.constant",
    pop methods "support.function",
    pop functions "support.function.vb",
    pop r"\b[a-zA-Z_]\w*" "variable.other.member",
    popNow]),
  ("text", context [
    mark r"\x22\x22" "constant.character.escape",
    pop r"\x22" "punctuation.definition.string.end",
    pop r"\n" "invalid.illegal.unclosed-string"] |>.whole "string.quoted.double")]

end Asp

open Asp

/-- The grammar of Basic as it is used for pages. -/
def basic : Grammar := ("main", context [use "statements"]) :: statements ++ expressions

/-- The grammar of HTML in which code in Basic stands between tags with percent signs. -/
def asp : Grammar :=
  [("main", context [push "" "" ["html:main"] |>.over "code tags"]),
   ("code tags", context [
    push r"<%@" "punctuation.section.embedded.begin" ["directive"],
    push r"<%=?" "punctuation.section.embedded.begin" ["code"]]),
   ("directive", context [
    pop r"%>" "punctuation.section.embedded.end",
    mark r"\b[A-Za-z]\w*(?=\s*=)" "constant.language.processing-directive",
    push r"\x22" "punctuation.definition.string.begin" ["text"]]),
   ("code", context [
    pop r"%>" "punctuation.section.embedded.end",
    use "statements"])] ++ statements ++ expressions ++ html.embedded "html"

end

/-! ### Languages with Ruby in them

The methods of the framework are known on top of those of Ruby. Code in Ruby stands between tags
with percent signs: in HTML they can stand anywhere, in the other languages only where nothing has
been begun. In Haml a line starts with the mark of a tag, a class or an identity, or with the sign of
code in Ruby; any other line is text.
-/

/-! ### Ruby on Rails -/

namespace Rails

/-- The methods of controllers. -/
def controllerMethods : String :=
  r"\b(?:before_filter|skip_before_filter|skip_after_filter|after_filter|around_filter|filter|" ++
    r"filter_parameter_logging|layout|require_dependency|render|render_action|render_text|" ++
    r"render_file|render_template|render_nothing|render_component|render_without_layout|" ++
    r"rescue_from|url_for|redirect_to|redirect_to_path|redirect_to_url|respond_to|helper|" ++
    r"helper_method|model|service|observer|serialize|scaffold|verify|hide_action)\b"

/-- The methods of views. -/
def viewMethods : String :=
  r"\b(?:check_box|content_for|error_messages_for|form_for|fields_for|file_field|hidden_field|" ++
    r"image_submit_tag|label|link_to|password_field|radio_button|submit|text_field|text_area)\b"

/-- The methods of records. -/
def recordMethods : String :=
  r"\b(?:named_scope|after_create|after_destroy|after_save|after_update|after_validation|" ++
    r"after_validation_on_create|after_validation_on_update|before_create|before_destroy|" ++
    r"before_save|before_update|before_validation|before_validation_on_create|" ++
    r"before_validation_on_update|composed_of|belongs_to|has_one|has_many|" ++
    r"has_and_belongs_to_many|validate|validate_on_create|validates_numericality_of|" ++
    r"validate_on_update|validates_acceptance_of|validates_associated|" ++
    r"validates_confirmation_of|validates_each|validates_format_of|validates_inclusion_of|" ++
    r"validates_exclusion_of|validates_length_of|validates_presence_of|validates_size_of|" ++
    r"validates_uniqueness_of|attr_protected|attr_accessible|attr_readonly|" ++
    r"accepts_nested_attributes_for|default_scope|scope)\b"

/-- The methods of all objects. -/
def objectMethods : String :=
  r"\b(?:alias_method_chain|alias_attribute|delegate|cattr_accessor|mattr_accessor|returning|" ++
    r"memoize)\b"

end Rails

/-- The grammar of Ruby on Rails. -/
def rails : Grammar :=
  ("main", context [
    mark Rails.controllerMethods "support.function.actionpack",
    mark Rails.viewMethods "support.function.viewhelpers",
    mark Rails.recordMethods "support.function.activerecord",
    mark Rails.objectMethods "support.function.activesupport",
    use "ruby:main"]) :: ruby.embedded "ruby"


/-! ### Tags with Ruby -/

/-- The contexts of tags with code in Ruby. -/
def codeTags : Grammar := [
  ("code tags", context [
    push r"<%+#" "punctuation.definition.comment.begin" ["code comment"],
    push r"<%+(?!>)[-=]?" "punctuation.section.embedded.begin" ["code"]]),
  ("code comment", context [pop r"%>" "punctuation.definition.comment.end"]
    |>.whole "comment.block"),
  ("code", context [
    pop r"-?%>" "punctuation.section.embedded.end",
    mark r"#(?:(?!%>).)*" "comment.line.number-sign",
    use "ruby:main"])] ++ rails.embedded "ruby"

/-- The grammar of HTML with Ruby in it. -/
def erb : Grammar :=
  ("main", context [push "" "" ["html:main"] |>.over "code tags"]) ::
    codeTags ++ html.embedded "html"

/-- The grammar of JavaScript with Ruby in it. -/
def javaScriptWithRuby : Grammar :=
  ("main", context [use "code tags", use "js:main"]) :: codeTags ++ javaScript.embedded "js"

/-- The grammar of SQL with Ruby in it. -/
def sqlWithRuby : Grammar :=
  ("main", context [use "code tags", use "sql:main"]) :: codeTags ++ sql.embedded "sql"


/-! ### Haml -/

/-- The grammar of Haml. -/
def haml : Grammar := [
  ("main", context [
    mark r"^!!!(?=$|\s).*" "meta.prolog",
    mark r"^ *(/)\s*\S.*$\n?" "comment.line.slash",
    push r"^( *)(/)\s*$" "" ["comment block"]
      |>.parts [(2, "punctuation.section.comment")],
    push r"^\s*(?:(%[\w:-]+)|(?=[.#][\w-]))" "" ["tag"]
      |>.parts [(1, "entity.name.tag")],
    mark r"^\s*(\\.)" "" |>.parts [(1, "meta.escape")],
    push r"^\s*(?=[=~-])" "" ["code line"]]),
  ("comment block", context [pop r"^(?!\1  )(?=[^\n])" ""] |>.whole "comment.block"),
  ("tag", context [
    pop r"$|(?![.#\x7b\[=~/-])" "",
    mark r"\.[\w-]+" "entity.name.tag.class",
    mark r"#[\w-]+" "entity.name.tag.id",
    push r"\x7b(?=.*\x7d|.*\|\s*$)" "meta.section.attributes" ["attributes"],
    push r"\[(?=.*\]|.*\|\s*$)" "meta.section.object" ["object reference"],
    use "code sign",
    mark r"/" "punctuation.terminator.tag"]),
  ("attributes", context [
    pop r"\x7d|$" "",
    use "ruby:main"] |>.whole "meta.section.attributes"),
  ("object reference", context [
    pop r"\]|$" "",
    use "ruby:main"] |>.whole "meta.section.object"),
  ("code line", context [
    pop r"$" "",
    use "code sign"]),
  ("code sign", context [push r"[=~-]" "" ["code"]]),
  ("code", context [
    pop r"(?=\n)" "",
    mark r"#.*" "comment.line.number-sign",
    use "ruby:main"] |>.whole "meta.line.ruby")] ++ rails.embedded "ruby"

end DocPreview.Highlight.Language
