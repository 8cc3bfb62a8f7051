import DocPreview.Highlight.Grammar

/-!
# The grammar of regular expressions

The marks of groups, sets, anchors and classes of characters are keywords; in a set, a range is a
constant.
-/

namespace DocPreview.Highlight.Language

open Grammar

/-- The grammar of regular expressions. -/
def regularExpression : Grammar := [
  ("main", context [
    mark r"\|" "keyword.operator.or",
    mark r"[?*+][?+]?|\x7b(?:\d+,?\d*|,\d+)\x7d[?+]?" "keyword.operator.quantifier",
    push r"\(\?#" "punctuation.definition.comment.begin" ["comment"],
    mark r"\(\?[imsxUXJ]*(?:-[imsxUXJ]+)?\)" "keyword.control.option-toggle",
    push r"(\(\?P?<)([A-Za-z_]\w*)(>)" "" ["group"] |>.parts [
      (1, "keyword.control.group"), (2, "entity.name.capture-group"),
      (3, "keyword.control.group")],
    push r"(\(\?')([A-Za-z_]\w*)(')" "" ["group"] |>.parts [
      (1, "keyword.control.group"), (2, "entity.name.capture-group"),
      (3, "keyword.control.group")],
    push r"(\()(\?(?:[:=!>|]|<[=!]|[imsxUXJ]*(?:-[imsxUXJ]+)?:))" "" ["group"]
      |>.parts [(1, "keyword.control.group"), (2, "constant.other.assertion")],
    push r"\(" "keyword.control.group" ["group"],
    mark r"(\\[kg]<)([-+]?\w+)(>)" "" |>.parts [
      (1, "keyword.other.back-reference"), (2, "variable.other.back-reference"),
      (3, "keyword.other.back-reference")],
    mark r"(\\[kg]')([-+]?\w+)(')" "" |>.parts [
      (1, "keyword.other.back-reference"), (2, "variable.other.back-reference"),
      (3, "keyword.other.back-reference")],
    mark r"(\\)([1-9][0-9]?)" "" |>.parts [
      (1, "keyword.other.back-reference"), (2, "variable.other.back-reference")],
    mark r"\\[bBAZzGK]|\^|\$" "keyword.control.anchors",
    use "characters",
    mark r"\." "keyword.other.any",
    push r"\[\^?" "keyword.control.set" ["set"]]),
  ("comment", context [pop r"\)" "punctuation.definition.comment.end"]
    |>.whole "comment.block.group"),
  ("group", context [
    pop r"\)" "keyword.control.group",
    use "main"]),
  ("characters", context [
    mark r"\\[wWsSdDhHRX]|\\[pP]\x7b\^?\w+\x7d" "keyword.control.character-class",
    mark r"\\(?:x\h\h|x\x7b\h+\x7d|0[0-7]{0,2}|c.|.)" "constant.character.escape"]),
  ("set", context [
    pop r"\]" "keyword.control.set",
    mark r"\[:\^?\w+:\]" "constant.other.posix-class",
    push r"\[\^?" "keyword.control.set" ["set"],
    mark r"(?:(\\[^wWsSdDhHRX])|[^\]\\])-(?:(\\[^wWsSdDhHRX])|[^\]\\])" "constant.other.range"
      |>.parts [(1, "constant.character.escape"), (2, "constant.character.escape")],
    mark r"&&" "keyword.operator.intersection",
    use "characters"])]

end DocPreview.Highlight.Language
