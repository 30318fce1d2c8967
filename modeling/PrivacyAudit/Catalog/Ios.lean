import PrivacyAudit.Catalog.Basic

/-!
# The catalog for iOS projects
-/

namespace PrivacyAudit.Catalog

/-- The rules for iOS projects. -/
def iosText : CatalogText where
  name := "IosDetector"
  extensions := ["swift", "m", "h", "plist"]
  rules := [
    ⟨.permissions, "CAMERA", "NSCameraUsageDescription", none⟩,
    ⟨.permissions, "LOCATION_WHEN_IN_USE", "NSLocationWhenInUseUsageDescription", none⟩,
    ⟨.permissions, "LOCATION_ALWAYS", "NSLocationAlwaysAndWhenInUseUsageDescription", none⟩,
    ⟨.permissions, "MICROPHONE", "NSMicrophoneUsageDescription", none⟩,
    ⟨.permissions, "CONTACTS", "NSContactsUsageDescription", none⟩,
    ⟨.permissions, "PHOTOS", "NSPhotoLibraryUsageDescription", none⟩,
    ⟨.permissions, "CALENDAR", "NSCalendarsUsageDescription", none⟩,
    ⟨.permissions, "REMINDERS", "NSRemindersUsageDescription", none⟩,
    ⟨.permissions, "MOTION", "NSMotionUsageDescription", none⟩,
    ⟨.permissions, "HEALTH", "NSHealthUpdateUsageDescription|NSHealthShareUsageDescription", none⟩,
    ⟨.permissions, "HOMEKIT", "NSHomeKitUsageDescription", none⟩,
    ⟨.permissions, "MEDIA_LIBRARY", "NSAppleMusicUsageDescription", none⟩,
    ⟨.permissions, "SPEECH_RECOGNITION", "NSSpeechRecognitionUsageDescription", none⟩,
    ⟨.permissions, "SIRI", "NSSiriUsageDescription", none⟩,
    ⟨.permissions, "FACE_ID", "NSFaceIDUsageDescription", none⟩,
    ⟨.apis, "CAMERA_API", "AVCaptureDevice|AVCaptureSession|UIImagePickerController", none⟩,
    ⟨.apis, "LOCATION_API", "CLLocationManager|CLLocation", none⟩,
    ⟨.apis, "AUDIO_API", "AVAudioRecorder|AVAudioPlayer", none⟩,
    ⟨.apis, "CONTACTS_API", "CNContactStore|ABAddressBook", none⟩,
    ⟨.apis, "PHOTOS_API", "PHPhotoLibrary|ALAssetsLibrary", none⟩,
    ⟨.apis, "CALENDAR_API", "EKEventStore", none⟩,
    ⟨.apis, "MOTION_API", "CMMotionManager", none⟩,
    ⟨.apis, "HEALTHKIT_API", "HKHealthStore", none⟩,
    ⟨.apis, "HOMEKIT_API", "HMHomeManager", none⟩,
    ⟨.apis, "BIOMETRIC_API", "LABiometryType|LAContext", none⟩,
    ⟨.apis, "KEYCHAIN_API", "SecItemAdd|SecItemCopyMatching", none⟩,
    ⟨.thirdPartyLibs, "FIREBASE", "Firebase|(?-i:\\bFIR[A-Z])", none⟩,
    ⟨.thirdPartyLibs, "GOOGLE_ANALYTICS", "GoogleAnalytics|(?-i:\\bGAI\\b)", none⟩,
    ⟨.thirdPartyLibs, "FACEBOOK_SDK", "FBSDKCoreKit|FacebookCore", none⟩,
    ⟨.thirdPartyLibs, "ADMOB", "GoogleMobileAds|(?-i:\\bGAD[A-Z])", none⟩,
    ⟨.thirdPartyLibs, "CRASHLYTICS", "Crashlytics|FirebaseCrashlytics", none⟩,
    ⟨.thirdPartyLibs, "APPSFLYER", "AppsFlyerLib", none⟩,
    ⟨.thirdPartyLibs, "ADJUST", "\\bAdjust\\b", none⟩,
    ⟨.thirdPartyLibs, "MIXPANEL", "Mixpanel", none⟩,
    ⟨.thirdPartyLibs, "AMPLITUDE", "Amplitude", none⟩,
    ⟨.thirdPartyLibs, "FLURRY", "Flurry", none⟩,
    ⟨.dataCollection, "NETWORK_ACCESS", "NSAppTransportSecurity", some "Info.plist"⟩,
    ⟨.dataCollection, "ADVERTISING_ID", "SKAdNetwork", some "Info.plist"⟩,
    ⟨.dataCollection, "BACKGROUND_PROCESSING", "UIBackgroundModes", some "Info.plist"⟩,
    ⟨.dataCollection, "DEVICE_ID", "identifierForVendor|advertisingIdentifier", none⟩,
    ⟨.dataCollection, "USER_INPUT", "UITextField|UITextView", none⟩,
    ⟨.dataCollection, "NETWORK_REQUESTS", "URLSession|NSURLConnection|Alamofire", none⟩,
    ⟨.dataCollection, "LOCAL_STORAGE", "UserDefaults|CoreData|SQLite", none⟩]

end PrivacyAudit.Catalog
