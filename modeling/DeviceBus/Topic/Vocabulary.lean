/-!
# The words of the device's topics

The heads that the device's processes use, in the order in which a listener takes them up by default,
and the methods.  The spellings are those on the wire.
-/

namespace DeviceBus.Topic

/-- Every head. -/
def heads : List String := [
  "main", "hal", "media", "kvs", "lvgl", "hub", "batteryCam", "quick_reply", "wakeupSleep", "heatbeat",
  "lvglButtonTalk"]

/-- Every method. -/
def methods : List String := [
  "button", "ble", "mqtt", "sdp", "params", "ctrl", "notify", "report", "stream", "sync", "timeSync",
  "liveStream", "wakeup", "syncParam", "reportParam", "keepLive", "kvsTalk", "kvsCloudEndTime",
  "recordKeepAlive", "displayParams", "bootup", "poweroff", "hubLockState", "hubLockControl",
  "unlock_event", "format", "hubLedContorl", "eventRecordInfo", "play", "update", "factoryNotify",
  "statusQuery", "upgrade", "configure_network", "subOtaReport", "subOtaReq", "disconnectWebrtc",
  "getRtspConfigReq", "getRtspConfigResp", "hubTalkStatus"]

end DeviceBus.Topic
