import DocPreview.Highlight.Grammar

/-!
# The grammar of ActionScript

The names of the library come before the words of the language, so that a word that is both counts
as a name of the library.
-/

namespace DocPreview.Highlight.Language

open Grammar

namespace ActionScript

/-- The classes of the library. -/
def classes : String :=
  "ASClamp|ASClamp2|ASConstructor|ASInstanceOf|ASNative|ASNew|ASSetNative|" ++
    "ASSetPropFlags|Accessibility|Accordion|Alert|Application|Array|AsBroadcaster|Binding|" ++
    "Button|ByName|Camera|CheckBox|Client|Color|ComboBox|ComponentMixins|ContextMenu|" ++
    "ContextMenuItem|Cookie|CustomActions|DataGlue|DataGrid|DataSet|DataType|Date|" ++
    "DateChooser|DateField|Delta|DeltaItem|DeltaPacket|Download|EndPoint|Error|" ++
    "FAdvancedMessageBox|FBarChart|FCalendar|FCheckbox|FComboBox|FDataGrid|FDraggablePane|" ++
    "FGridColumn|FIconButton|FLineChart|FListBox|FLoadingBox|FMessageBox|FPieChart|" ++
    "FProgressBar|FPromptBox|FPushButton|FRadioButton|FScrollBar|FScrollPane|FSplitView|" ++
    "FStyleFormat|FTicker|FTooltip|FTooltipLite|FTree|FTreeNode|Form|Function|Key|Label|" ++
    "Launch|List|LoadVars|Loader|LocalConnection|Log|MMExecute|MMSave|Math|" ++
    "MediaController|MediaDisplay|MediaPlayback|Menu|MenuBar|MicrophoneMicrophone|Mouse|" ++
    "MovieClip|MovieClipLoader|NetConnection|NetDebug|NetDebugConfig|NetServices|NetStream|" ++
    "Netstream|NumericStepper|Object|PendingCall|PopUpManager|PrintJob|Product|" ++
    "ProgressBar|RDBMSResolver|RadioButton|RadioButtonGroup|Recordset|SOAPCall|ScrollPane|" ++
    "SendEvent|ServiceObject|SharedObject|Slide|Sound|Stage|Stream|StyleSheet|System|" ++
    "TAB|TextArea|TextField|TextFormat|TextInput|TextSnapshot|Tree|TypedValue|" ++
    "UIScrollBar|URL|UTC|Video|WSDLURL|WebService|WebServiceConnector|Window|XML|" ++
    "XMLConnector|XMLNode|XMLSocket|XUpdateResolverDataHolder"

/-- The functions and properties of the library, A to B. -/
def memberNamesAB : String :=
  "abs|acceptConnection|acos|activePlayControl|activityLevel|add|addAnimation|addColumn|" ++
    "addColumnAt|addCuePoint|addDeltaItem|addEventListener|addFieldInfo|addHeader|addIcon|" ++
    "addItem|addItemAt|addItems|addItemsAt|addListener|addMenu|addMenuAt|addMenuItem|" ++
    "addMenuItemAt|addNode|addNodeAt|addNotice|addPage|addPod|addProperty|" ++
    "addRequestHeader|addSort|addToLocalInternetCache|addTreeNode|addTreeNodeAt|addView|" ++
    "addheader|afterLoaded|agent|album|align|allTransitionsInDone|allTransitionsOutDone|" ++
    "allowDomain|allowInsecureDomain|alternateRowColors|and|appendChild|apply|applyChanges|" ++
    "applyUpdates|argList|arguments|arrow|artist|asfunction|asin|aspectRatio|" ++
    "asscociateController|asscociateDisplay|atan|atan2|attachAudio|attachMovie|attachSound|" ++
    "attachVideo|attributes|autoKeyNav|autoLoad|autoPlay|autoSize|avHardwareDisable|bHTML|" ++
    "background|backgroundColor|backgroundDisabled|backgroundStyle|bandwidth|" ++
    "beforeApplyUpdates|beginFill|beginGradientFill|bindFormatFunction|bindFormatStrings|" ++
    "blockIndent|bold|border|borderColor|bottom|bottomScroll|broadcastMessage|" ++
    "bufferLength|bufferTime|builtInItems|bullet|buttonHeight|buttonWidth|bytesLoaded|" ++
    "bytesTotal"

/-- The functions and properties of the library, C to D. -/
def memberNamesCD : String :=
  "calcFields|call|callee|caller|cancelLabel|capabilities|caption|catch|ceil|cellEdit|" ++
    "cellFocusIn|cellFocusOut|cellPress|cellRenderer|change|changesPending|charAt|" ++
    "charCodeAt|check|childNodes|chr|clear|clearInterval|clearSharedObjects|clearStreams|" ++
    "clearTimeout|click|clients|clone|cloneNode|close|closeButton|closePane|color|" ++
    "columnCount|columnName|columnNames|columnStretch|comment|complete|component|concat|" ++
    "concurrency|condenseWhite|connect|constant|constructor|contains|content|contentPath|" ++
    "contentType|controlPlacement|controllerPolicy|conversion|copy|cos|createCall|" ++
    "createChild|createChildAtDepth|createClassChildAtDepth|createClassObject|" ++
    "createClassObjectAtDepth|createClient|createElement|createEmptyMovieClip|" ++
    "createGatewayConnection|createItem|createMenu|createObject|createObjectAtDepth|" ++
    "createPopUp|createSegment|createServer|createTextField|createTextNode|cuePoint|" ++
    "cuePoints|curValue|currentChildSlide|currentFocusedForm|currentFocusedScreen|" ++
    "currentFocusedSlide|currentFps|currentItem|currentSlide|curveTo|customItems|" ++
    "darkshadow|dashBoardSave|data|dataProvider|dayNames|deblocking|decode|default|" ++
    "defaultKeydownHandler|defaultPushButton|defaultPushButtonEnabled|delete|deleteAll|" ++
    "deletePopUp|delta|deltaPacket|deltaPacketChanged|destroyChildAt|destroyObject|" ++
    "direction|disableCloseBox|disableEvents|disableShader|disabledDays|disabledRanges|" ++
    "disconnect|displayFull|displayNormal|displayedMonth|displayedYear|doDecoding|" ++
    "doLazyDecoding|docTypeDecl|domain|dotall|dragOut|dragOver|draw|dropdown|" ++
    "dropdownWidth|duplicateMovieClip|duration"

/-- The functions and properties of the library, E to F. -/
def memberNamesEF : String :=
  "editField|editLocationDialog|editable|embedFonts|emphasized|emphasizedStyleDeclaration|" ++
    "enableCloseBox|enableEvents|enableShader|enabled|encode|encoder|endFill|enter|" ++
    "enterFrame|eq|escape|eval|evaluate|event|exactSettings|exec|execute|exp|extended|" ++
    "face|fieldInfo|filter|filterFunc|filtered|finally|find|findFirst|findLast|findText|" ++
    "first|firstChild|firstDayOfWeek|firstSlide|firstVisibleNode|floor|flush|focusEnabled|" ++
    "focusIn|focusOut|focusedCell|font|foregroundDisabled|format|formatter|fps|" ++
    "fromCharCode|fscommand|functionName"

/-- The functions and properties of the library, G. -/
def memberNamesG : String :=
  "gain|ge|genre|get|getActivateHandler|getActiveState|getActiveStateHandler|getAgent|" ++
    "getAllItems|getAnimation|getAnyTypedValue|getAsBoolean|getAsNumber|getAsString|" ++
    "getAscii|getAutoHeight|getAutoHideScrollBar|getBackground|getBandwidthLimit|" ++
    "getBeginIndex|getBounds|getButtonWidth|getButtons|getBytesLoaded|getBytesTotal|" ++
    "getCall|getCaretIndex|getCellIndex|getChartTitle|getChildAt|getChildForm|" ++
    "getChildNodes|getChildScreen|getChildSlide|getCloseHandler|getCode|getColumnAt|" ++
    "getColumnCount|getColumnIndex|getColumnNames|getConfigInfo|getContent|getCookie|" ++
    "getCount|getCuePoint|getData|getDataAllFormat|getDataAllHeight|getDataAllProperty|" ++
    "getDataAllWidth|getDataItemFormat|getDataItemProperty|getDataItemText|getDataLabel|" ++
    "getDataMapping|getDataMappings|getDate|getDay|getDayOfWeekNames|getDebug|" ++
    "getDebugConfig|getDebugID|getDefaultNodeIconSymbolName|getDelay|getDeltaPacket|" ++
    "getDepth|getDirection|getDiskUsage|getDisplayClip|getDisplayIndex|getDisplayMode|" ++
    "getDisplayRange|getDisplayedMonth|getDrawConnectors|getDuration|getEditingData|" ++
    "getEnabled|getEndIndex|getExandNodeTrigger|getExpanderSymbolName|getFadeInLength|" ++
    "getFadeOutLength|getField|getFirstDayOfWeek|getFirstVisibleNode|getFocus|getFontList|" ++
    "getFrameColor|getFrameWidth|getFullYear|getHasCloseBox|getHasShader|getHeader|" ++
    "getHeaderFormat|getHeaderHeight|getHeaderLocation|getHeaderProperty|getHeaderText|" ++
    "getHeaderWidth|getHeight|getHighlightColor|getHighlights|getHours|getIcon|" ++
    "getIconSymbolName|getId|getIndexByKey|getIndicesByKey|getInstanceAtDepth|getIsBranch|" ++
    "getIsOpen|getItemAt|getItemByKey|getItemByName|getItemID|getItemid|getItemsByKey|" ++
    "getIterator|getLabel|getLabelSource|getLastTabIndex|getLength|getLineColor|" ++
    "getLineWeight|getLoadTarget|getLocal|getMaximum|getMaximumSize|getMenuAt|" ++
    "getMenuEnabledAt|getMenuItemAt|getMessage|getMilliseconds|getMinimum|getMinimumSize|" ++
    "getMinutes|getMonth|getMonthNames|getMultilineMode|getNewTextFormat|" ++
    "getNextHighestDepth|getNodeAt|getNodeDisplayedAt|getNotices|getNumChildren|" ++
    "getNumberAvailable|getOperation|getOrientation|getOutputParameter|" ++
    "getOutputParameterByName|getOutputParameters|getOutputValue|getOutputValues|getPan|" ++
    "getPaneHeight|getPaneMaximums|getPaneMinimums|getPaneTitle|getPaneWidth|getParentNode|" ++
    "getPercentComplete|getPods|getPosition|getPreferences|getPreferredHeight|" ++
    "getPreferredWidth|getProperty|getPropertyData|getPropertyName|getRGB|getRemote|" ++
    "getResizable|getRootNode|getRowCount|getSWFVersion|getScrollContent|getScrollLocation|" ++
    "getScrollPosition|getScrollSpeed|getScrollbarState|getScrolling|getSeconds|" ++
    "getSelectBegin|getSelectMultiple|getSelectStyle|getSelected|getSelectedCell|" ++
    "getSelectedIndex|getSelectedIndices|getSelectedItem|getSelectedItems|getSelectedNode|" ++
    "getSelectedNodes|getSelectedText|getSelectionRequired|getSelectionType|getService|" ++
    "getShowAsDisabled|getSize|getSmoothness|getSortState|getSource|getSpacing|" ++
    "getSplitterBarPosition|getState|getStopOnFocus|getStyle|getStyleNames|getText|" ++
    "getTextExtent|getTextFormat|getTime|getTimeoutHandler|getTimeoutState|getTimer|" ++
    "getTimestamp|getTimezoneOffset|getTip|getTipOffset|getTipTarget|getTitle|" ++
    "getTitlebarHeight|getToggle|getTransactionId|getTransform|getTreeLength|getTreeNodeAt|" ++
    "getTypedValue|getValue|getValueSource|getVersion|getViewedApplications|getViewedPods|" ++
    "getVolume|getWidth|getX|getXAxisTitle|getY|getYAxisTitle|getYear|getuRL|getuTCDate|" ++
    "getuTCDay|getuTCFullYear|getuTCHours|getuTCMilliseconds|getuTCMinutes|getuTCMonth|" ++
    "getuTCSeconds|getuseFade|getuseHandCursor|getuseShadow|getuserInput|global|" ++
    "globalStyleFormat|globalToLocal|gotoAndPlay|gotoAndStop|gotoFirstSlide|gotoLastSlide|" ++
    "gotoNextSlide|gotoPreviousSlide|gotoSlide|groupName|gt"

/-- The functions and properties of the library, H to L. -/
def memberNamesHL : String :=
  "hLineScrollSize|hPageScrollSize|hPosition|handlerName|hasAccesibility|hasAudio|" ++
    "hasAudioEncoder|hasEmbeddedVideo|hasMP3|hasNext|hasOwnProperty|hasPrevious|" ++
    "hasPrinting|hasScreenBroadcast|hasScreenPlayback|hasSort|hasStreamingAudio|" ++
    "hasStreamingVideo|hasVideoEncoder|haschildNodes|headerHeight|headerRelease|" ++
    "headerRenderer|headerText|height|hide|hideBuiltInItems|hideChild|highlight|" ++
    "highlight2D|highlight3D|hitArea|hitTest|hitTestTextNearPos|horizontal|hscroll|" ++
    "hscrollPolicy|html|htmlText|icon|iconField|iconFunction|id3|ifFrameLoaded|" ++
    "ignoreCase|ignoreWhite|in|inLocalInternetCache|includeDeltaPacketInfo|indent|" ++
    "indeterminate|index|indexInParent|indexInParentForm|indexInParentSlide|indexOf|" ++
    "infinity|init|initAgent|initApplication|initComponent|initPod|initialize|input|" ++
    "insertBefore|install|int|invalidate|ip|isActive|isBranch|isConnected|isConsoleOpen|" ++
    "isDebugger|isDown|isEmpty|isFinite|isFullyPopulated|isInstalled|isLocal|isNaN|" ++
    "isOpen|isPropertyEnumerable|isPrototypeOf|isPurchased|isRunning|isToggled|italic|" ++
    "itemClassName|itemRollOut|itemRollOver|items|iteratorScrolled|join|keyDown|" ++
    "keyFrameInterval|keyPress|keyUp|kind|label|labelField|labelFunction|labelPlacement|" ++
    "lableField|language|last|lastChild|lastIndex|lastIndexOf|lastSlide|le|leading|left|" ++
    "leftMargin|length|lineStyle|lineTo|list|listOwner|load|loadApplication|loadMovie|" ++
    "loadMovieNum|loadScrollContent|loadSound|loadVariables|loadVariablesNum|loaded|" ++
    "localFileReadDisable|localToGlobal|locateByld|location|lock|log|logChanges|loopback|" ++
    "lt"

/-- The functions and properties of the library, M to Q. -/
def memberNamesMQ : String :=
  "manufacturer|match|max|maxChars|maxHPosition|maxVPosition|maxhscroll|maximum|" ++
    "maxscroll|mbchr|mblength|mbord|mbsubstring|mediaType|menu|menuHide|menuShow|" ++
    "message|meth|method|min|minimum|mode|modelChanged|monthNames|motionLevel|" ++
    "motionTimeOut|mouseDown|mouseDownOutside|mouseDownSomewhere|mouseMove|mouseOut|" ++
    "mouseOver|mouseUp|mouseUpSomewhere|mouseWheelEnabled|move|moveTo|multiline|" ++
    "multipleSelections|multipleSimultaneousAllowed|muted|myCall|myMethodName|name|names|" ++
    "ne|newItem|newLocationDialog|newValue|newline|next|nextFrame|nextScene|nextSibling|" ++
    "nextSlide|nextTabIndex|nextValue|noLabel|nodeClose|nodeName|nodeOpen|nodeType|" ++
    "nodeValue|not|nullValue|numChildForms|numChildScreens|numChildSlides|numChildren|" ++
    "okLabel|oldValue|on|onActivate|onActivity|onAppStart|onAppStop|onChanged|" ++
    "onClipEvent|onClose|onConnect|onData|onDeactivate|onDisconnect|onDragOut|onDragOver|" ++
    "onEnterFrame|onFault|onID3|onKeyDown|onKeyUp|onKillFocus|onLoad|onLog|onMouseDown|" ++
    "onMouseMove|onMouseUp|onMouseWheel|onNetworkChange|onNoticeEvent|onPaymentResult|" ++
    "onPress|onRelaseOutside|onRelease|onReleaseOutside|onResize|onResult|onRollOut|" ++
    "onRollOver|onScroller|onSelect|onSelectedItem|onSetFocus|onSoundComplete|onStatus|" ++
    "onSync|onUninstall|onUnload|onXML|open|operation|or|ord|os|overLayChildren|params|" ++
    "parentIsForm|parentIsScreen|parentIsSlide|parentNode|parseCSS|parseFloat|parseInt|" ++
    "parseXML|password|pause|percenLoaded|percentComplete|pixelAspectRatio|play|" ++
    "playHidden|playerType|playheadChange|playheadTime|playing|pop|position|pow|" ++
    "preferredHeight|preferredWidth|press|prevFrame|prevScene|previous|previousSibling|" ++
    "previousSlide|previousValue|print|printAsBitmap|printAsBitmapNum|printNum|progress|" ++
    "properties|property|proto|prototype|publish|purge|push|qsort|quality"

/-- The functions and properties of the library, R. -/
def memberNamesR : String :=
  "radioDot|random|rate|readAccess|readOnly|receiveAudio|receiveVideo|reconcileResults|" ++
    "reconcileUpdates|record|redraw|referrer|refresh|refreshDestinations|" ++
    "refreshFromSources|refreshPane|refreshScrollContent|registerClass|registerColorName|" ++
    "registerColorStyle|registerInheritingStyle|registerProxy|registerSkinElement|" ++
    "rejectConnection|release|releaseOutside|removeAll|removeAllColumns|removeAllCuePoints|" ++
    "removeAllItems|removeBackground|removeColumAt|removeColumnAt|removeCuePoints|" ++
    "removeEventListener|removeFromLocalInternetCache|removeItem|removeItemAt|removeListener|" ++
    "removeMenuAt|removeMenuItem|removeMenuItemAt|removeMovieClip|removeNode|removeNodeAt|" ++
    "removeNodesAt|removeNotice|removePod|removeRange|removeSort|removeTextField|" ++
    "removeTreeNode|removeTreeNodeAt|replace|replaceAllItems|replaceItemAt|replaceSel|" ++
    "request|requestPayment|requestSizeChange|resizable|resizableColumns|resize|" ++
    "resolveDelta|response|restartAnimation|restorePane|restrict|result|results|" ++
    "resyncDepth|reveal|revealChild|reverse|right|rightMargin|rollOut|rollOver|rootForm|" ++
    "rootScreen|rootSlide|round|rowCount|rowHeight"

/-- The functions and properties of the library, S. -/
def memberNamesS : String :=
  "saveToSharedObj|scaleContent|scaleMode|scaleX|scaleY|schema|screenColor|screenDPI|" ++
    "screenResolution|scroll|scrollDrag|scrollTrack|security|seek|selectable|" ++
    "selectableRanges|selected|selectedChild|selectedData|selectedDate|selectedIndex|" ++
    "selectedIndices|selectedItem|selectedItems|selectedNode|selectedNodes|selection|" ++
    "selectionDisabled|selectionUnfocused|send|sendAndLoad|sendDefaultPushButtonEvent|" ++
    "separatorBefore|server|serverString|set|setActivateHandler|setActiveHandler|" ++
    "setActiveState|setActiveStateHandler|setAnimation|setAnyTypedValue|setAsBoolean|" ++
    "setAsNumber|setAsString|setAutoHeight|setAutoHideScrollBar|setBackground|" ++
    "setBandwidthLimit|setBaseTabIndex|setBufferTime|setButtonWidth|setButtons|setCellData|" ++
    "setCellSymbol|setChangeHandler|setChartEventHandler|setChartTitle|setChildNodes|" ++
    "setClickHandler|setClipboard|setCloseHandler|setColumns|setContent|setContentSize|" ++
    "setCookie|setCredentials|setData|setDataAllFormat|setDataAllHeight|setDataAllProperty|" ++
    "setDataAllWidth|setDataItemFormat|setDataItemProperty|setDataItemText|setDataMapping|" ++
    "setDataMappings|setDataProvider|setDate|setDateFilter|setDayOfWeekNames|setDebug|" ++
    "setDebugID|setDefaultGatewayURL|setDefaultMappings|setDefaultNodeIconSymbolName|" ++
    "setDelay|setDeliveryMode|setDepthAbove|setDepthBelow|setDepthTo|setDirection|" ++
    "setDisplayClip|setDisplayGraphics|setDisplayMode|setDisplayRange|setDisplayText|" ++
    "setDisplayedMonth|setDragContent|setDrawConnectors|setDuration|setEditHandler|" ++
    "setEditable|setEnabled|setExpandNodeTrigger|setExpanderSymbolName|setFadeInLength|" ++
    "setFadeOutLength|setField|setFirstDayOfWeek|setFirstVisibleNode|setFocus|setFps|" ++
    "setFrameColor|setFrameWidth|setFullYear|setGain|setGroupName|setHScroll|" ++
    "setHasCloseBox|setHasShader|setHeader|setHeaderFormat|setHeaderHeight|" ++
    "setHeaderLocation|setHeaderProperty|setHeaderSymbol|setHeaderText|setHeaderWidth|" ++
    "setHighlightColor|setHighlights|setHorizontal|setHours|setIcon|setIconSymbolName|" ++
    "setInputProperty|setInterval|setIsBranch|setIsOpen|setItemByKey|setItemSymbol|" ++
    "setIterator|setKeyFrameInterval|setLabel|setLabelPlacement|setLabelSource|" ++
    "setLargeScroll|setLineColor|setLineWeight|setLoadTarget|setLoopback|setMask|" ++
    "setMaximum|setMedia|setMenuEnabledAt|setMenuItemEnabled|setMenuItemEnabledAt|" ++
    "setMessage|setMilliseconds|setMinimum|setMinutes|setMode|setMonth|setMonthNames|" ++
    "setMotionLevel|setMultilineMode|setNewTextFormat|setNodeExpansionHandler|" ++
    "setNodeProperties|setOrientation|setPan|setPaneMaximumSize|setPaneMinimumSize|" ++
    "setPaneSize|setPaneTitle|setPercentComplete|setPosition|setProgress|setPropertiesAt|" ++
    "setProperty|setPropertyData|setQuality|setRGB|setRange|setRate|setResizable|" ++
    "setResizableColumns|setRootNode|setRowCount|setRowHeight|setScrollContent|" ++
    "setScrollLocation|setScrollPosition|setScrollProperty|setScrollSpeed|setScrollTarget|" ++
    "setScrollbarState|setScrolling|setSeconds|setSelectColor|setSelectMultiple|" ++
    "setSelectStyle|setSelectable|setSelected|setSelectedCell|setSelectedIndex|" ++
    "setSelectedIndices|setSelectedItem|setSelectedItems|setSelectedNode|setSelectedNodes|" ++
    "setSelection|setSelectionRequired|setSelectionType|setShowAsDisabled|setSize|setSkin|" ++
    "setSmallScroll|setSmoothness|setSortFunction|setSortable|setSortableColumns|setSpacing|" ++
    "setSplitterBarPosition|setState|setStatus|setStopOnFocus|setStyle|setStyleProperty|" ++
    "setTextFormat|setTime|setTimeout|setTimeoutHandler|setTip|setTipOffset|setTipTarget|" ++
    "setTitle|setTitlebarHeight|setToggle|setTransform|setType|setTypedVaule|setVScroll|" ++
    "setValue|setValueSource|setVolume|setWidth|setX|setXAxisTitle|setY|setYAxisTitle|" ++
    "setYear|setuTCDate|setuTCFullYear|setuTCHours|setuTCMilliseconds|setuTCMinutes|" ++
    "setuTCMonth|setuTCSeconds|setuseEchoSuppression|setuseFade|setuseHandCursor|" ++
    "setuseShadow|setuserInput|shadePane|shadow|shift|show|showBorder|showColumnHeaders|" ++
    "showGridLines|showHeaders|showMenu|showPreferences|showSettings|showToday|" ++
    "silenceLevel|silenceTimeOut|sin|size|skip|slice|smoothing|songname|sort|sortItems|" ++
    "sortItemsBy|sortOn|sortOnHeaderRelease|sortable|sortableColumns|source|" ++
    "spaceCollumnsEqually|spaceColumnsEqually|splice|split|sqrt|start|startAgent|" ++
    "startAnimation|startDrag|status|stepSize|stop|stopAgent|stopAllSounds|stopAnimation|" ++
    "stopDrag|styleSheet|substr|substring|suppressInvalidCalls|swapDepths"

/-- The functions and properties of the library, T to Z. -/
def memberNamesTZ : String :=
  "tabChildren|tabEnabled|tabIndex|tabStops|tableName|tan|target|targetPath|tellTarget|" ++
    "test|text|textAlign|textBold|textColor|textDisabled|textField|textFont|textHeight|" ++
    "textIndent|textItalic|textLeftMargin|textRightMargin|textSelected|textSize|" ++
    "textUnderline|textWidth|this|throw|time|timeout|title|titleStyleDeclaration|" ++
    "toLocaleString|toLowerCase|toString|toUpperCase|toggle|toggleHighQuality|toolTipText|" ++
    "top|totalTime|trace|track|trackAsMenu|trigger|try|type|typeName|typeof|underline|" ++
    "unescape|unformat|uninstall|unload|unloadMovie|unloadMovieNum|unlock|unshift|" ++
    "unwatch|updateAfterEvent|updateInputProperties|updateItem|updateItemByIndex|updateMode|" ++
    "updatePacket|updateProperties|updateResults|updateView|url|useCodecs|" ++
    "useEchoSuppression|useHandCursor|useSort|vLineScrollSize|vPageScrollSize|vPosition|" ++
    "vScrollPolicy|validate|validateActivationKey|validateProperty|validationError|value|" ++
    "valueOf|variable|version|viewPod|visible|void|volume|watch|width|with|wordWrap|" ++
    "writeAccess|x|xmlDecl|xupdatePackety|year|yesLabel"

end ActionScript

open ActionScript

/-- The grammar of ActionScript. -/
def actionScript : Grammar := [
  ("main", context [
    mark ("\\b(?:" ++ classes ++ ")\\b") "support.class",
    mark ("\\b(?:" ++ memberNamesAB ++ ")\\b") "support.function",
    mark ("\\b(?:" ++ memberNamesCD ++ ")\\b") "support.function",
    mark ("\\b(?:" ++ memberNamesEF ++ ")\\b") "support.function",
    mark ("\\b(?:" ++ memberNamesG ++ ")\\b") "support.function",
    mark ("\\b(?:" ++ memberNamesHL ++ ")\\b") "support.function",
    mark ("\\b(?:" ++ memberNamesMQ ++ ")\\b") "support.function",
    mark ("\\b(?:" ++ memberNamesR ++ ")\\b") "support.function",
    mark ("\\b(?:" ++ memberNamesS ++ ")\\b") "support.function",
    mark ("\\b(?:" ++ memberNamesTZ ++ ")\\b") "support.function",
    mark (r"\b(?:__proto__|__resolve|_accProps|_alpha|_changed|_currentframe|_droptarget|" ++
      r"_flash|_focusrect|_framesloaded|_global|_height|_highquality|_level|_listeners|" ++
      r"_lockroot|_name|_parent|_quality|_root|_rotation|_soundbuftime|_target|_totalframes|" ++
      r"_url|_visible|_width|_x|_xmouse|_xscale|_y|_ymouse|_yscale)\b") "support.constant",
    mark (r"\b(?:dynamic|extends|import|implements|interface|public|private|new|static|super|" ++
      r"var|for|in|break|continue|while|do|return|if|else|case|switch)\b") "keyword.control",
    mark r"\b(?:Boolean|Number|String|Void)\b" "storage.type",
    mark r"\b(?:null|undefined|true|false)\b" "constant.language",
    mark r"\b(?:0[xX]\h*|(?:\d+\.?\d*|\.\d+)(?:[eE][-+]?\d+)?)(?:L|l|UL|ul|u|U|F|f)?\b"
      "constant.numeric",
    push r"\x22" "punctuation.definition.string.begin" ["double quoted"],
    push r"'" "punctuation.definition.string.begin" ["single quoted"],
    mark (r"\b(?:BACKSPACE|CAPSLOCK|CONTROL|DELETEKEY|DOWN|END|ENTER|HOME|INSERT|LEFT|LN10|" ++
      r"LN2|LOG10E|LOG2E|MAX_VALUE|MIN_VALUE|NEGATIVE_INFINITY|NaN|PGDN|PGUP|PI|" ++
      r"POSITIVE_INFINITY|RIGHT|SPACE|SQRT1_2|SQRT2|UP)\b") "support.constant",
    push r"/\*" "punctuation.definition.comment" ["block comment"],
    mark r"//.*$\n?" "comment.line.double-slash",
    mark r"\binstanceof\b" "keyword.operator",
    mark r"[-!%&*+=/?:]" "keyword.operator.symbolic",
    mark r"^[ \t]*#[a-zA-Z]+" "meta.preprocessor",
    push r"\b(function)\s+([a-zA-Z_]\w*)\s*(\()" "" ["parameters"]
      |>.parts [(1, "storage.type.function"), (2, "entity.name.function")],
    mark r"\b(class)\s+([a-zA-Z_][\w.]*)(?:\s+(extends)\s+([a-zA-Z_][\w.]*))?" "" |>.parts [
      (1, "storage.type.class"), (2, "entity.name.type.class"),
      (3, "storage.modifier.extends"), (4, "entity.other.inherited-class")]]),
  ("parameters", context [
    pop r"\)" "punctuation.definition.parameters.end",
    mark r"[^,)$]+" "variable.parameter.function"]),
  ("double quoted", context [
    pop r"\x22" "punctuation.definition.string.end",
    mark r"\\." "constant.character.escape"] |>.whole "string.quoted.double"),
  ("single quoted", context [
    pop r"'" "punctuation.definition.string.end",
    mark r"\\." "constant.character.escape"] |>.whole "string.quoted.single"),
  ("block comment", context [pop r"\*/" "punctuation.definition.comment"]
    |>.whole "comment.block")]

end DocPreview.Highlight.Language
