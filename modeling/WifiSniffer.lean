import WifiSniffer.Arduino.Commands
import WifiSniffer.Arduino.Frames
import WifiSniffer.Boot.Setup
import WifiSniffer.Ctrl.Chunks
import WifiSniffer.Ctrl.Decoder
import WifiSniffer.Ctrl.HexText
import WifiSniffer.Ctrl.Relay
import WifiSniffer.Firmware.Boots
import WifiSniffer.Handler.Concurrent
import WifiSniffer.Handler.Footprint
import WifiSniffer.Handler.Loosening
import WifiSniffer.Nvs.Getters
import WifiSniffer.Nvs.Handles
import WifiSniffer.Serial.Reader
import WifiSniffer.Session.Clients
import WifiSniffer.Session.Invariant
import WifiSniffer.Session.Lossless
import WifiSniffer.Session.PartialWrite
import WifiSniffer.Session.RecordTimes
import WifiSniffer.Settings.FilterText
import WifiSniffer.Settings.LoadSafety
import WifiSniffer.Settings.Passwords
import WifiSniffer.Tasks.Display
import WifiSniffer.Tasks.Threshold
import WifiSniffer.Wifi.Events
import WifiSniffer.Wifi.FullLength
